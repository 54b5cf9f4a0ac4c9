import BuildDispatch.Supervisor.Payload

/-! How a supervisor keeps an agent running: round after round, within a budget of crashes. -/
namespace BuildDispatch.Supervisor

open Program (Round)

structure Memory where
  crashes : UInt32
  lastChecksum : Option String
  /-- Whether the last run ended with a wish for a new payload. -/
  restartRequested : Bool
  deriving DecidableEq, Repr

namespace Memory

def start : Memory := ⟨0, none, false⟩

def isUnchanged (m : Memory) (payload : Manifest) : Bool := m.lastChecksum = some payload.checksum

end Memory

/-- Waits after a failure, longer with each in a row. Beyond the budget it is the end. -/
def backOff (c : SupervisorSettings) (crashes : UInt32) (lastCode : Option Int32) :
    Supervision Unit := do
  if c.maxRestarts < crashes then fail (.budgetExhausted crashes lastCode)
  pause .relaunch c.restartBackoff crashes.toNat

/--
The crashes to start from with a payload: none with another one than the last. A restart that was
asked for in vain counts as a crash.
-/
def crashesBefore (c : SupervisorSettings) (m : Memory) (payload : Manifest) :
    Supervision UInt32 := do
  if !m.isUnchanged payload then return 0
  if !m.restartRequested then return m.crashes
  backOff c (m.crashes + 1) (some 0)
  return m.crashes + 1

/-- What is remembered of a launch that ended, after whatever wait is due. -/
def settle (c : SupervisorSettings) (crashes : UInt32) (checksum : String) :
    LaunchEnd → Supervision Memory
  | .shutDown => throw .shutDown
  | .lockLost => fail (.lockLost c.lockPath)
  | .exited exit ranFor => do
    let crashes := if c.healthyRun.nanos ≤ ranFor.nanos then 0 else crashes
    if exit = .code 0 then return ⟨crashes, some checksum, true⟩
    backOff c (crashes + 1) exit.code?
    return ⟨crashes + 1, some checksum, false⟩

def round (c : SupervisorSettings) (m : Memory) : Supervision Memory := do
  let payload ← ensurePayload c
  let crashes ← crashesBefore c m payload.manifest
  if !(← ask .isOwner) then fail (.lockLost c.lockPath)
  settle c crashes payload.manifest.checksum (← ask (.launch payload))

/-- A round that either leads to the next one or ends supervision. -/
def step (c : SupervisorSettings) (m : Memory) : Program Action (Round Memory Ending) := do
  match ← (round c m).run with
  | .ok m => return .again m
  | .error e => return .stop e

/--
Supervises for at most `most` rounds, under the lock. It is given up however supervision ends,
unless the process breaks off.
-/
def supervise (c : SupervisorSettings) (most : Nat) : Program Action (Option Ending) := do
  if !(← Program.ask .acquire) then return some (.failed (.alreadyRunning c.lockPath))
  match ← Program.rounds (step c) most .start with
  | none => return none
  | some .aborted => return some .aborted
  | some ending =>
    Program.ask .release
    return some ending

end BuildDispatch.Supervisor
