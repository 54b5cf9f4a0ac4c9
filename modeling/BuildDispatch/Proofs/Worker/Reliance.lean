import BuildDispatch.Proofs.Worker.Honesty
import BuildDispatch.Proofs.Worker.Scene

/-!
What each loop of an agent counts on while the other has its turns (`Worker.Since`), and what it
guarantees in turn (`Worker.Fine`). A loop whose script keeps to that keeps to it at each of its
steps, whatever else happens (`Worker.Lawful.advance`, `Worker.Lawful.since`).
-/
namespace BuildDispatch.Worker

open Dispatcher (Blameless Grows Handed Revoked)

/--
An agent that serves, beside its dispatcher. The job that it says it runs was handed to it, and if
that is to stop, it was taken back.
-/
structure Sane (config : Config) (uuid : String) (v : Served) : Prop where
  blameless : Blameless config uuid v.dispatcher
  named : v.agent.info.uuid = uuid
  serves : v.agent.isShutDown = false
  given : ∀ {job}, v.agent.info.currentJob = some job → Handed uuid v.dispatcher.log job.buildId
  armed : ∀ {tripped}, v.agent.stopped = some tripped → ∃ job,
    v.agent.info.currentJob = some job ∧ (tripped = true → Revoked v.dispatcher job.buildId)

inductive Side where
  | work
  | pings

namespace Side

def other : Side → Side
  | work => pings
  | pings => work

/-- What a loop counts on of the agent: only the work loop takes up jobs and drops them. -/
def Keeps : Side → WorkerState → WorkerState → Prop
  | work, s, t => t.info.currentJob = s.info.currentJob ∧ t.stopped.isSome = s.stopped.isSome
  | pings, _, _ => True

theorem keeps_of_same {side : Side} {s t : WorkerState}
    (current : t.info.currentJob = s.info.currentJob)
    (armed : t.stopped.isSome = s.stopped.isSome) : side.Keeps s t := by
  cases side with
  | work => exact ⟨current, armed⟩
  | pings => trivial

theorem Keeps.refl {side : Side} {s : WorkerState} : side.Keeps s s := keeps_of_same rfl rfl

theorem Keeps.trans {side : Side} {s t u : WorkerState} (first : side.Keeps s t)
    (second : side.Keeps t u) : side.Keeps s u := by
  cases side with
  | work => exact ⟨second.1.trans first.1, second.2.trans first.2⟩
  | pings => trivial

end Side

variable {config : Config} {uuid : String} {side : Side} {u v w : Served}

/-- What a loop counts on after a while. -/
structure Since (config : Config) (uuid : String) (side : Side) (v w : Served) : Prop where
  sane : Sane config uuid w
  grows : Grows uuid v.dispatcher w.dispatcher
  keeps : side.Keeps v.agent w.agent

theorem Since.refl (sane : Sane config uuid v) : Since config uuid side v v := ⟨sane, .refl, .refl⟩

theorem Since.trans (first : Since config uuid side u v) (second : Since config uuid side v w) :
    Since config uuid side u w :=
  ⟨second.sane, first.grows.trans second.grows, first.keeps.trans second.keeps⟩

/-- What an agent says of its job, and the token of that, stay as they are. -/
theorem Sane.change (sane : Sane config uuid v) {agent : WorkerState}
    (named : agent.info.uuid = v.agent.info.uuid) (serves : agent.isShutDown = v.agent.isShutDown)
    (current : agent.info.currentJob = v.agent.info.currentJob)
    (armed : agent.stopped = v.agent.stopped) : Sane config uuid { v with agent } := by
  refine ⟨sane.blameless, named.trans sane.named, serves.trans sane.serves, fun busy => ?_,
    fun stopped => ?_⟩
  · exact sane.given (current.symm.trans busy)
  · obtain ⟨job, busy, revoked⟩ := sane.armed (armed.symm.trans stopped)
    exact ⟨job, current.trans busy, revoked⟩

/-- Whatever the dispatcher serves, the agent knows nothing of it. -/
theorem Sane.since {s : Session Dispatcher} (sane : Sane config uuid v)
    (served : Blameless config uuid s ∧ Grows uuid v.dispatcher s) :
    Since config uuid side v { v with dispatcher := s } where
  sane := by
    refine ⟨served.1, sane.named, sane.serves, fun busy => served.2.handed (sane.given busy), ?_⟩
    intro tripped stopped
    obtain ⟨job, busy, revoked⟩ := sane.armed stopped
    exact ⟨job, busy, fun trips => served.2.revoked (revoked trips)⟩
  grows := served.2
  keeps := .refl

/-- What a loop may come to with an action. Notes are exact, all else takes a while. -/
def Rule (config : Config) (uuid : String) (side : Side) : Program.Rule Action Served
  | _, v, .note f, b, w => Sane config uuid w ∧ ∃ u, Since config uuid side v u ∧
      b = (f u.agent).1 ∧ w = { u with agent := (f u.agent).2 }
  | _, v, .call c, answer, w => Since config uuid side v w ∧ c.Informs uuid w.dispatcher answer
  | β, v, x, b, w => Since config uuid side v w ∧ EndsAlone w.agent β x b

/--
What a loop guarantees of an action: notes leave the agent sane, and what the other loop counts on
as it was, and calls are honest. The ping loop obeys only answers that are not out of date.
-/
def Fine (config : Config) (uuid : String) (side : Side) (m : Program.Moment Action Served) :
    (β : Type) → Action β → Prop
  | _, .note f => ∀ w, Since config uuid side m.state w → (side = .pings → Timely m.past w.agent) →
      Sane config uuid { w with agent := (f w.agent).2 } ∧
        side.other.Keeps w.agent (f w.agent).2
  | _, .call c => c.Honest uuid m.state.dispatcher
  | _, _ => True

namespace Stand

variable {α : Type}

/-- What a loop has still to do. -/
def rest : Stand α → Script α
  | ready rest => rest
  | sent c next | answered c _ next => .act (.call c) next

/-- An answer on the way is true. -/
def Told (uuid : String) (s : Session Dispatcher) : Stand α → Prop
  | answered c answer _ => c.Informs uuid s answer
  | _ => True

theorem Told.grows {stand : Stand α} {s t : Session Dispatcher} (h : stand.Told uuid s)
    (grows : Grows uuid s t) : stand.Told uuid t := by
  cases stand with
  | answered => exact BuildDispatch.Call.Informs.grows h grows
  | ready | sent => trivial

end Stand

/-- If an action was a call, it was honest. -/
def WasHonest (uuid : String) (s : Session Dispatcher) : (Σ β : Type, Action β × β) → Prop
  | ⟨_, .call c, _⟩ => c.Honest uuid s
  | _ => True

theorem WasHonest.grows {s t : Session Dispatcher} {event : Σ β : Type, Action β × β}
    (h : WasHonest uuid s event) (grows : Grows uuid s t) : WasHonest uuid t event := by
  obtain ⟨β, x, b⟩ := event
  cases x with
  | call c => exact Call.Honest.grows h grows
  | _ => trivial

/-- A loop keeps to its guarantees, and has kept to them so far. -/
structure Lawful {α : Type} (config : Config) (uuid : String) (side : Side) (v : Served)
    (loop : Loop α) : Prop where
  script : ∃ u, Since config uuid side u v ∧ Program.Safe (Rule config uuid side)
    (Fine config uuid side) (fun _ _ => True) loop.stand.rest ⟨loop.past, u⟩
  told : loop.stand.Told uuid v.dispatcher
  honest : ∀ event ∈ loop.past, WasHonest uuid v.dispatcher event

namespace Lawful

variable {α : Type} {loop loop' : Loop α}

theorem sane (h : Lawful config uuid side v loop) : Sane config uuid v := by
  obtain ⟨u, since, -⟩ := h.script
  exact since.sane

theorem since (h : Lawful config uuid side v loop) (later : Since config uuid side v w) :
    Lawful config uuid side w loop := by
  obtain ⟨u, since, safe⟩ := h.script
  exact ⟨⟨u, since.trans later, safe⟩, h.told.grows later.grows,
    fun event before => (h.honest event before).grows later.grows⟩

theorem answered {β : Type} {past : Program.Trace Action} {c : Call β}
    {next : Except CallError β → Script α} {answer : Except CallError β}
    (since : Since config uuid side u v)
    (safe : Program.Safe (Rule config uuid side) (Fine config uuid side) (fun _ _ => True)
      (.act (.call c) next) ⟨past, u⟩)
    (informs : c.Informs uuid v.dispatcher answer)
    (honest : ∀ event ∈ past, WasHonest uuid v.dispatcher event) :
    Lawful config uuid side v ⟨⟨_, .call c, answer⟩ :: past, .ready (next answer)⟩ where
  script := ⟨v, .refl since.sane, safe.2 answer v ⟨since, informs⟩⟩
  told := trivial
  honest := List.forall_mem_cons.2 ⟨Call.Honest.grows safe.1 since.grows, honest⟩

theorem advance (h : Lawful config uuid side v loop) (step : Advance v loop w loop')
    (few : w.Few) (timely : side = .pings → loop'.past ≠ loop.past → Timely loop.past v.agent) :
    Lawful config uuid side w loop' ∧ Since config uuid side.other v w := by
  have sane := h.sane
  have stays : Since config uuid side.other v v := .refl sane
  obtain ⟨u, since, safe⟩ := h.script
  cases step with
  | @note β past next f b looked =>
    obtain ⟨after, keeps⟩ := safe.1 v since fun pings => timely pings (List.cons_ne_self _ _)
    exact ⟨⟨⟨_, .refl after, safe.2 b _ ⟨after, v, since, looked, rfl⟩⟩, trivial,
      List.forall_mem_cons.2 ⟨trivial, h.honest⟩⟩, after, .refl, keeps⟩
  | @alone β past next x b ends =>
    cases x with
    | note | call => exact ends.elim
    | prepareDirectory | runTask | rest | pause | awaitPing =>
      have later := safe.2 b v ⟨since, ends⟩
      exact ⟨⟨⟨v, .refl sane, later⟩, trivial, List.forall_mem_cons.2 ⟨trivial, h.honest⟩⟩, stays⟩
  | send => exact ⟨⟨⟨u, since, safe⟩, trivial, h.honest⟩, stays⟩
  | serve x _ served =>
    have honest := Call.Honest.grows safe.1 since.grows
    have kept := sane.blameless.ask_of_honest few honest
    refine ⟨⟨⟨u, since.trans (sane.since kept), safe⟩, ?_,
      fun event before => (h.honest event before).grows kept.2⟩, sane.since kept⟩
    rw [served]
    exact sane.blameless.informs_ask few honest
  | receive => exact ⟨.answered since safe h.told h.honest, stays⟩
  | unserved e | unanswered e =>
    exact ⟨.answered since safe (Call.informs_error e) h.honest, stays⟩

end Lawful

end BuildDispatch.Worker
