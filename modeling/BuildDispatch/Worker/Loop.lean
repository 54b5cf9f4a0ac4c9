import BuildDispatch.Worker.Job

/-! The loops of an agent: it registers, asks for work, and pings the dispatcher beside that. -/
namespace BuildDispatch

inductive WorkerExit where
  /-- Another payload is published, or the protocol is no longer spoken. -/
  | upgrade
  | shutdown
  deriving DecidableEq, Repr

namespace Worker

open Program (Round)

/-- One attempt to register. A dispatcher that does not speak the protocol calls for an upgrade. -/
def registerRound (_ : Unit) : Script (Round Unit (Option WorkerExit)) := do
  let registered ←
    match ← call .hello with
    | .ok _ => refreshCookie
    | .error e =>
      if e.kind? = some .unsupportedProtocol then return .stop (some .upgrade)
      pure false
  if registered then return .stop none
  return if ← Program.ask .rest then .again () else .stop (some .shutdown)

/-- Whether another payload is published than the one of this checksum. -/
def upgradeAvailable (checksum : Option String) : Script Bool := do
  match checksum with
  | none => return false
  | some ours =>
    match ← call .payloadManifest with
    | .ok m => return m.checksum ≠ ours
    | .error _ => return false

def restRound : Script (Round Unit WorkerExit) := do
  return if ← Program.ask .rest then .again () else .stop .shutdown

/-- One poll for work. After a job the next poll follows at once. -/
def workRound (checksum : Option String) (_ : Unit) : Script (Round Unit WorkerExit) := do
  if ← look (·.isShutDown) then return .stop .shutdown
  if ← upgradeAvailable checksum then return .stop .upgrade
  let info ← look (·.info)
  match ← call (.getWork info) with
  | .ok (.build a) =>
    runJob a
    return .again ()
  | .ok _ => restRound
  | .error e =>
    recover e
    restRound

def serve (checksum : Option String) (most : Nat) : Script (Option WorkerExit) := do
  match ← Program.rounds registerRound most () with
  | none => return none
  | some (some exit) => return some exit
  | some none => Program.rounds (workRound checksum) most ()

/-- One ping. An agent that is told to cancel stops the job in progress. -/
def pingRound (_ : Unit) : Script (Round Unit Unit) := do
  if !(← Program.ask .awaitPing) then return .stop ()
  let info ← look (·.info)
  match ← call (.ping info) with
  | .ok instruction => if instruction.cancel then change (·.trip)
  | .error e => recover e
  return .again ()

end Worker

end BuildDispatch
