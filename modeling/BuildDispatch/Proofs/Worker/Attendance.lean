import BuildDispatch.Proofs.Dispatcher.Instruction
import BuildDispatch.Proofs.Worker.Served

/-!
A job in the hands of its agent. While the agent is served and nobody else speaks for it, the job
stands where the agent's last report has put it, unless an operator retired it, and it has the
result of that report, unless an operator cancelled it (`Worker.Attended`).
-/
namespace BuildDispatch

open Dispatcher (Cancels Retires WasRetired)

namespace Report

def call (r : Report) (info : Snapshot) (job : JobRef) : Call ReportOutcome :=
  match r with
  | status state => .reportCurrentStatus info job state
  | completing result => .reportCompleting info job result
  | completed result => .reportCompleted info job result

theorem operation?_call (r : Report) (info : Snapshot) (job : JobRef) (x : Circumstances) :
    (r.call info job).operation? x = some (.report info job r) := by
  cases r <;> rfl

theorem perform_call (r : Report) (info : Snapshot) (job : JobRef) (d : Dispatcher)
    (x : Circumstances) :
    (r.call info job).perform d x = Call.told id (d.hear info job x.now r) := by
  cases r <;> rfl

end Report

/-- What of an agent's word about itself decides whether it is let in. -/
def Snapshot.badge (s : Snapshot) : String × Option Cookie × String :=
  (s.uuid, s.cookie, s.location)

theorem Roster.admits_congr {r : Roster} {info info' : Snapshot} (same : info'.badge = info.badge) :
    r.Admits info' ↔ r.Admits info := by
  simp only [Snapshot.badge, Prod.mk.injEq] at same
  obtain ⟨uuid, cookie, location⟩ := same
  unfold Admits
  rw [uuid, cookie, location]

theorem Dispatcher.hear_of_admits {d : Dispatcher} {info : Snapshot}
    (admitted : d.roster.Admits info) (job : JobRef) (now : Timestamp) (r : Report) :
    d.hear info job now r =
      (d.seen info now).ofBoard (d.board.hear info.uuid job.buildId now r) := by
  obtain ⟨status, roster, hs, -⟩ := d.roster.observe_of_admits now admitted
  rw [hear_eq]
  unfold report seen
  rw [hs]
  rfl

namespace Worker

/--
An agent, which introduced itself with `info`, has a job that stands in a state with a result. It
still shows the same badge, and is let in with that.
-/
structure Attended (config : Config) (info : Snapshot) (id : BuildId) (state : JobState)
    (result : JobResult) (v : Served) : Prop where
  orderly : v.dispatcher.state.Orderly config
  noted : v.dispatcher.state.board.assignments.get? info.uuid = some id
  shown : v.agent.info.badge = info.badge
  admitted : v.dispatcher.state.roster.Admits info
  stands : ∃ j, v.dispatcher.state.board.get? id = some j ∧ j.agent = some info.uuid ∧
    j.Stands v.dispatcher.log state result

def Served.Few (v : Served) : Prop := v.dispatcher.state.board.Few

theorem orderly_ask {config : Config} {s : Session Dispatcher} (h : s.state.Orderly config)
    {α : Type} (c : Call α) (x : Circumstances) : (c.ask x s).2.state.Orderly config ∧
      s.state.board.jobs.size ≤ (c.ask x s).2.state.board.jobs.size := by
  cases asked : c.operation? x with
  | none =>
    obtain ⟨payload, after⟩ := c.ask_of_no_operation x s asked
    rw [after]
    exact ⟨⟨h.tended, h.idle⟩, le_rfl⟩
  | some op =>
    rw [c.ask_of_operation x s asked]
    exact ⟨h.perform x.now op, h.size_le x.now op⟩

theorem Beside.orderly {config : Config} {uuid : String} {v w : Served} (beside : Beside uuid v w)
    (h : v.dispatcher.state.Orderly config) : w.dispatcher.state.Orderly config ∧
      v.dispatcher.state.board.jobs.size ≤ w.dispatcher.state.board.jobs.size := by
  induction beside with
  | nothing => exact ⟨h, le_rfl⟩
  | trip _ ih | shutDown _ ih => exact ih h
  | asked c x _ _ ih =>
    have first := orderly_ask h c x
    have later := ih first.1
    exact ⟨later.1, first.2.trans later.2⟩
  | swept timeout now _ ih =>
    have later := ih (h.perform now (.sweepLostContact timeout))
    exact ⟨later.1, (h.size_le now (.sweepLostContact timeout)).trans later.2⟩

namespace Attended

variable {config : Config} {info : Snapshot} {id : BuildId} {state : JobState} {result : JobResult}
  {v w : Served}

theorem keyed (h : Attended config info id state result v) {j : Job}
    (stored : v.dispatcher.state.board.get? id = some j) : j.buildId = id :=
  h.orderly.tended.coherent.keyed stored

/-- An agent that changes its mind about anything else still shows the same badge. -/
theorem change (h : Attended config info id state result v) (agent : WorkerState)
    (same : agent.info.badge = v.agent.info.badge) :
    Attended config info id state result { v with agent } :=
  ⟨h.orderly, h.noted, same.trans h.shown, h.admitted, h.stands⟩

theorem payload (h : Attended config info id state result v) (payload : PayloadStore) :
    Attended config info id state result
      { v with dispatcher := ⟨v.dispatcher.log, { v.dispatcher.state with payload }⟩ } :=
  ⟨⟨h.orderly.tended, h.orderly.idle⟩, h.noted, h.shown, h.admitted, h.stands⟩

/-- A call that hands nothing out to the agent, and issues no cookie to it, leaves it its place. -/
theorem of_stands (h : Attended config info id state result v)
    (x : BuildDispatch.Step Dispatcher.Call)
    (given : Dispatcher.given? info.uuid ⟨x, (v.dispatcher.state.perform x.now x.call).1⟩ = none)
    (issued : Dispatcher.issued? info.uuid ⟨x, (v.dispatcher.state.perform x.now x.call).1⟩ = none)
    {state' : JobState} {result' : JobResult}
    (stands : ∃ j, (v.dispatcher.call x).state.board.get? id = some j ∧ j.agent = some info.uuid ∧
      j.Stands (v.dispatcher.call x).log state' result') :
    Attended config info id state' result' { v with dispatcher := v.dispatcher.call x } where
  orderly := h.orderly.perform x.now x.call
  noted := by
    have noted := (Dispatcher.tended_perform h.orderly.tended x.now x.call).2 info.uuid
    rw [given] at noted
    exact noted.trans h.noted
  shown := h.shown
  admitted := by
    have bound := Dispatcher.bound?_perform v.dispatcher.state x info.uuid
    rw [issued] at bound
    intro cookie location shown
    exact h.admitted cookie location (bound.symm.trans shown)
  stands := stands

theorem call (h : Attended config info id state result v)
    (x : BuildDispatch.Step Dispatcher.Call) (spares : x.call.Spares info.uuid)
    (few : Served.Few { v with dispatcher := v.dispatcher.call x }) :
    Attended config info id state result { v with dispatcher := v.dispatcher.call x } := by
  refine h.of_stands x (Dispatcher.given?_of_spares spares _)
    (Dispatcher.issued?_of_spares spares _) ?_
  obtain ⟨j, stored, own, stands⟩ := h.stands
  have started : j.state ≠ .scheduled := (h.orderly.tended.coherent.jobs stored).begun own
  obtain ⟨j', stored', fares⟩ := Dispatcher.fares h.orderly x few stored started
  obtain ⟨own', stands'⟩ := stands.fares fares own spares
  exact ⟨j', stored', own', stands'⟩

/-- Whatever is asked that does not speak for the agent, the job is left where it stands. -/
theorem ask (h : Attended config info id state result v) {α : Type} (c : Call α) (x : Circumstances)
    (spares : ∀ op ∈ c.operation? x, op.Spares info.uuid)
    (few : Served.Few { v with dispatcher := (c.ask x v.dispatcher).2 }) :
    Attended config info id state result { v with dispatcher := (c.ask x v.dispatcher).2 } := by
  cases asked : c.operation? x with
  | none =>
    obtain ⟨payload, after⟩ := c.ask_of_no_operation x v.dispatcher asked
    rw [after]
    exact h.payload payload
  | some op =>
    rw [c.ask_of_operation x v.dispatcher asked] at few ⊢
    exact h.call ⟨op, x.now⟩ (spares op asked) few

theorem beside (h : Attended config info id state result v) (beside : Beside info.uuid v w)
    (few : w.Few) : Attended config info id state result w := by
  induction beside with
  | nothing => exact h
  | trip _ ih | shutDown _ ih => exact ih (h.change _ rfl) few
  | asked c x spares rest ih =>
    have first := orderly_ask h.orderly c x
    have few' := (rest.orderly first.1).2.trans_lt few
    exact ih (h.ask c x spares few') few
  | swept timeout now rest ih =>
    have few' := (rest.orderly (h.orderly.perform now (.sweepLostContact timeout))).2.trans_lt few
    exact ih (h.call ⟨.sweepLostContact timeout, now⟩ trivial few') few

/-- The agent's own report is taken in, unless the job was retired. -/
theorem report (h : Attended config info id state result v) {r : Report}
    (ahead : state.canAdvanceTo r.target = true)
    (firm : result = .cancelled → r.verdict result = .cancelled) {said : Snapshot}
    (shown : said.badge = info.badge) {job : JobRef} (about : job.buildId = id)
    (x : Circumstances) :
    Attended config info id r.target (r.verdict result)
        { v with dispatcher := ((r.call said job).ask x v.dispatcher).2 } ∧
      ∃ outcome, ((r.call said job).ask x v.dispatcher).1 = .ok outcome ∧
        ∀ reason, outcome = .rejected reason → WasRetired v.dispatcher.log id := by
  obtain ⟨j, stored, own, stands⟩ := h.stands
  have keyed := h.keyed stored
  have uuid : said.uuid = info.uuid := congrArg Prod.fst shown
  have heard := Dispatcher.hear_of_admits ((Roster.admits_congr shown).2 h.admitted) job x.now r
  rw [uuid, about, Board.hear_of_own stored own] at heard
  have told : ((r.call said job).ask x v.dispatcher).1 =
      Call.outcome (Call.told (·) (v.dispatcher.state.hear said job x.now r)).1 := by
    rw [Call.ask_eq, Report.perform_call]
    rfl
  have uncancelled {answer} : ¬Cancels ⟨⟨.report said job r, x.now⟩, answer⟩ j.buildId :=
    fun cancels => nomatch cancels.1
  have unretired {answer} : ¬Retires ⟨⟨.report said job r, x.now⟩, answer⟩ j.buildId :=
    fun retires => nomatch retires.1
  rw [(r.call said job).ask_of_operation x v.dispatcher (r.operation?_call said job x), told]
  rcases stands.heard ahead firm x.now with
    ⟨was, refused, stands'⟩ | ⟨j', taken, same, agent, stands'⟩
  · rw [refused] at heard
    refine ⟨h.of_stands _ rfl rfl ⟨j, ?_, own, stands' _ uncancelled unretired⟩,
      .rejected .terminal, by rw [heard]; rfl, fun _ _ => keyed ▸ was⟩
    change (v.dispatcher.state.hear said job x.now r).2.board.get? id = some j
    rw [heard]
    exact stored
  · rw [taken] at heard
    refine ⟨h.of_stands _ rfl rfl ⟨j', ?_, agent.trans own, stands' _ uncancelled unretired⟩,
      .accepted, by rw [heard]; rfl, nofun⟩
    change (v.dispatcher.state.hear said job x.now r).2.board.get? id = some j'
    rw [heard]
    exact (Board.get?_commit _ _ _).trans (if_pos (keyed.symm.trans same.symm))

end Attended

end Worker

end BuildDispatch
