import BuildDispatch.Message.Call
import BuildDispatch.Program
import BuildDispatch.Worker.State

/-! What an agent does while it serves: calls to the dispatcher, tasks, waits and notes. -/
namespace BuildDispatch

inductive TaskOutcome where
  | succeeded
  /-- Without a code, the task was killed or never started. -/
  | failed (code : Option Int32)
  /-- Killed because its job was stopped. -/
  | cancelled
  deriving DecidableEq

namespace Worker

/-- Each action is one step for the loop beside it. -/
inductive Action : Type → Type 1 where
  | call {α : Type} (c : Call α) : Action (Except CallError α)
  | note {α : Type} (f : WorkerState → α × WorkerState) : Action α
  /-- Makes the directory of a job; false if it cannot be made. -/
  | prepareDirectory (job : JobRef) : Action Bool
  | runTask (job : JobRef) (task : Task) (environment : List Variable) : Action TaskOutcome
  /-- Waits until the next poll; false if the agent is shut down before. -/
  | rest : Action Bool
  /-- Waits for as long, whatever happens. -/
  | pause : Action Unit
  | awaitPing : Action Bool

abbrev Script := Program Action

variable {α : Type}

def call (c : Call α) : Script (Except CallError α) := .ask (.call c)

def look (f : WorkerState → α) : Script α := .ask (.note fun s => (f s, s))

def change (f : WorkerState → WorkerState) : Script Unit := .ask (.note fun s => ((), f s))

/-- Gets a new cookie; false if there is none to be had. -/
def refreshCookie : Script Bool := do
  let info ← look (·.info)
  match ← call (.getCookie info.identity info.location) with
  | .ok cookie =>
    change (·.withCookie cookie)
    return true
  | .error _ => return false

/-- After a call that failed: an agent whose cookie was refused gets another. -/
def recover (e : CallError) : Script Unit := do
  if e.kind? = some .cookieMismatch then
    let _ ← refreshCookie

end Worker

end BuildDispatch
