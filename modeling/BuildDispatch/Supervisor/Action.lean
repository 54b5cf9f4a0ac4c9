import BuildDispatch.Duration
import BuildDispatch.Message.Call
import BuildDispatch.Path
import BuildDispatch.Program

/-! What a supervisor does while it watches over an agent, and how it can end. -/
namespace BuildDispatch

inductive SupervisorError where
  | alreadyRunning (lock : String)
  | lockLost (lock : String)
  | download (attempts : Nat) (cause : CallError)
  | corrupt (attempts : Nat) (expected : String)
  | install (path reason : String)
  | budgetExhausted (crashes : UInt32) (lastCode : Option Int32)
  deriving DecidableEq

def SupervisorError.message : SupervisorError → String
  | alreadyRunning lock => s!"another supervisor is running here ({lock} is held)"
  | lockLost lock => s!"lost ownership of {lock} to another supervisor"
  | download attempts cause =>
    s!"could not obtain agent payload after {attempts} attempt(s): {cause.message}"
  | corrupt attempts expected =>
    s!"downloaded payload failed verification {attempts} time(s) (expected sha256 {expected})"
  | install path reason => s!"failed to install payload at {path}: {reason}"
  | budgetExhausted crashes lastCode =>
    let code := match lastCode with
      | some c => s!"Some({c})"
      | none => "None"
    s!"agent failed {crashes} times in a row (last exit code {code})"

structure SupervisorSettings where
  lockPath : String
  payloadPath : String
  /-- How many crashes in a row are let pass. -/
  maxRestarts : UInt32
  /-- The wait after a crash, for each crash in a row. -/
  restartBackoff : Duration
  /-- A run of this length makes good for the crashes before it. -/
  healthyRun : Duration
  downloadRetries : UInt32
  /-- The wait after a failed attempt, for each attempt. -/
  downloadBackoff : Duration
  deriving DecidableEq, Repr

namespace SupervisorSettings

/-- How often a download is tried: once at least. -/
def attempts (c : SupervisorSettings) : Nat := (max c.downloadRetries 1).toNat

theorem attempts_pos (c : SupervisorSettings) : 0 < c.attempts := by
  change 0 < (if c.downloadRetries ≤ 1 then 1 else c.downloadRetries).toNat
  split
  · decide
  · next more =>
    have least : 1 < c.downloadRetries.toNat := by
      rw [UInt32.le_iff_toNat_le] at more
      exact Nat.lt_of_not_le more
    omega

/-- Where a download lies before it is put into place. -/
def partialPath (c : SupervisorSettings) : String := Path.withExtension c.payloadPath "download"

end SupervisorSettings

structure InstalledPayload where
  path : String
  manifest : Manifest
  deriving DecidableEq, Repr

inductive ProcessExit where
  | code (c : Int32)
  | signal
  | notStarted (reason : String)
  deriving DecidableEq

def ProcessExit.code? : ProcessExit → Option Int32
  | code c => some c
  | _ => none

namespace Supervisor

inductive LaunchEnd where
  | exited (exit : ProcessExit) (ranFor : Duration)
  | shutDown
  | lockLost
  deriving DecidableEq

/-- What a wait is for: another attempt to download, or the next launch. -/
inductive Pause where
  | download
  | relaunch
  deriving DecidableEq

/-- Where an action may be broken off by a shutdown, its answer is then missing. -/
inductive Action : Type → Type 1 where
  | acquire : Action Bool
  | release : Action Unit
  | isOwner : Action Bool
  | manifest : Action (Option (Except CallError Manifest))
  | fetch : Action (Option (Except CallError (Manifest × Bytes)))
  | fileLength (path : String) : Action (Option (Option UInt64))
  | read (path : String) : Action (Option (Option Bytes))
  | makeDirectory (path : String) : Action (Option (Except String Unit))
  | write (path : String) (content : Bytes) : Action (Option (Except String Unit))
  | makeExecutable (path : String) : Action (Option (Except String Unit))
  | rename (source target : String) : Action (Option (Except String Unit))
  | sleep (reason : Pause) (time : Duration) : Action (Option Unit)
  | launch (payload : InstalledPayload) : Action LaunchEnd

def Action.isLaunch {α : Type} : Action α → Bool
  | .launch _ => true
  | _ => false

inductive Ending where
  | shutDown
  | failed (e : SupervisorError)
  /-- The process breaks off at a wait that is longer than can be told. -/
  | aborted
  deriving DecidableEq

abbrev Supervision := ExceptT Ending (Program Action)

variable {α : Type}

/-- An action that a shutdown does not break off. -/
def ask (x : Action α) : Supervision α := ExceptT.lift (Program.ask x)

/-- An action that ends all supervision if it is broken off. -/
def await (x : Action (Option α)) : Supervision α := do
  match ← ask x with
  | some a => return a
  | none => throw .shutDown

def fail (e : SupervisorError) : Supervision α := throw (.failed e)

/-- Waits for so many times a duration. -/
def pause (reason : Pause) (time : Duration) (times : Nat) : Supervision Unit := do
  match time.times? times with
  | some total => await (.sleep reason total)
  | none => throw .aborted

end Supervisor

end BuildDispatch
