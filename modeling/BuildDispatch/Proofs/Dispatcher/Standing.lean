import BuildDispatch.Proofs.Dispatcher.Cookie
import BuildDispatch.Proofs.Dispatcher.Course

/-!
Where a job stands that an agent has, and with which result, but for what operators have done to it
(`Job.Stands`). Nobody else moves it, and the next report of the agent does, unless it was retired.
-/
namespace BuildDispatch

namespace Report

def target : Report → JobState
  | status state => state
  | completing _ => .completing
  | completed _ => .completed

/-- The result that a report gives to a job which had another. -/
def verdict (former : JobResult) : Report → JobResult
  | status _ => former
  | completing result | completed result => result

end Report

namespace Job

variable {j : Job} {r : Report}

/-- A report that is ahead of a job is taken in. -/
theorem hear_of_ahead (ahead : j.state.canAdvanceTo r.target = true) (now : Timestamp) :
    ∃ j', j.hear now r = .ok j' ∧ j'.ref = j.ref ∧ j'.agent = j.agent ∧ j'.state = r.target ∧
      j'.result = if j.result = .cancelled then .cancelled else r.verdict j.result := by
  have running : j.isTerminal = false := JobState.not_terminal_of_canAdvanceTo ahead
  cases r with
  | status state =>
    have new : j.state ≠ state := by
      rintro rfl
      revert ahead
      change j.state.canAdvanceTo j.state ≠ true
      cases j.state <;> decide
    refine ⟨j.enter state now, ?_, rfl, rfl, rfl, ?_⟩
    · change j.reportStatus state now = _
      unfold reportStatus
      rw [running, if_neg new]
      exact if_pos ahead
    · change j.result = if j.result = .cancelled then .cancelled else j.result
      split_ifs with h
      · exact h
      · rfl
  | completing result =>
    refine ⟨(j.conclude result).enter .completing now, ?_, by simp [enter], by simp [enter], rfl,
      j.result_conclude result⟩
    change j.reportCompleting result now = _
    unfold reportCompleting
    change j.state.canAdvanceTo .completing = true at ahead
    split
    case h_1 there => rw [there] at ahead; cases ahead
    case h_2 there => rw [there] at ahead; cases ahead
    case h_3 there => rw [there] at ahead; cases ahead
    case h_4 => rfl
  | completed result =>
    refine ⟨(j.conclude result).enter .completed now, ?_, by simp [enter], by simp [enter], rfl,
      j.result_conclude result⟩
    change j.reportCompleted result now = _
    unfold reportCompleted
    change j.state.canAdvanceTo .completed = true at ahead
    split
    case h_1 there => rw [there] at ahead; cases ahead
    case h_2 there => rw [there] at ahead; cases ahead
    case h_3 => rfl

theorem hear_of_rescheduled (retired : j.state = .rescheduled) (now : Timestamp) (r : Report) :
    j.hear now r = .error (.rejected .terminal) := by
  cases r with
  | status state =>
    change j.reportStatus state now = _
    unfold reportStatus isTerminal
    rw [retired]
    rfl
  | completing result =>
    change j.reportCompleting result now = _
    unfold reportCompleting
    rw [retired]
  | completed result =>
    change j.reportCompleted result now = _
    unfold reportCompleted
    rw [retired]

end Job

theorem Board.hear_of_own {b : Board} {uuid : String} {id : BuildId} {j : Job}
    (stored : b.get? id = some j) (own : j.agent = some uuid) (now : Timestamp) (r : Report) :
    b.hear uuid id now r =
      match j.hear now r with
      | .ok j' => (.ok .accepted, b.commit j')
      | .error outcome => (.ok outcome, b.count outcome) := by
  have own : j.isAssignedTo uuid = true := decide_eq_true own
  rw [hear_eq]
  unfold report
  rw [stored]
  exact if_pos own

namespace Dispatcher

def WasCancelled (log : List (Entry Call Reply)) (id : BuildId) : Prop := ∃ e ∈ log, Cancels e id

def WasRetired (log : List (Entry Call Reply)) (id : BuildId) : Prop := ∃ e ∈ log, Retires e id

instance (log : List (Entry Call Reply)) (id : BuildId) : Decidable (WasCancelled log id) :=
  inferInstanceAs (Decidable (∃ e ∈ log, Cancels e id))

instance (log : List (Entry Call Reply)) (id : BuildId) : Decidable (WasRetired log id) :=
  inferInstanceAs (Decidable (∃ e ∈ log, Retires e id))

variable {log : List (Entry Call Reply)} {e : Entry Call Reply} {id : BuildId}

theorem wasCancelled_concat :
    WasCancelled (log ++ [e]) id ↔ WasCancelled log id ∨ Cancels e id := by
  simp [WasCancelled, or_and_right, exists_or]

theorem wasRetired_concat : WasRetired (log ++ [e]) id ↔ WasRetired log id ∨ Retires e id := by
  simp [WasRetired, or_and_right, exists_or]

end Dispatcher

namespace Dispatcher

/-- The call does not speak for an agent, except by a ping. -/
def Call.Spares (uuid : String) : Call → Prop
  | .getWork info | .report info _ _ => info.uuid ≠ uuid
  | .getCookie identity _ _ => identity.uuid ≠ uuid
  | _ => True

theorem given?_of_spares {x : Step Call} {uuid : String} (spares : x.call.Spares uuid)
    (answer : Reply) : given? uuid ⟨x, answer⟩ = none := by
  unfold given?
  split
  case h_1 info a asked _ =>
    have spares : info.uuid ≠ uuid := by
      rw [show x.call = _ from asked] at spares
      exact spares
    exact if_neg spares
  case h_2 => rfl

theorem issued?_of_spares {x : Step Call} {uuid : String} (spares : x.call.Spares uuid)
    (answer : Reply) : issued? uuid ⟨x, answer⟩ = none := by
  unfold issued?
  split
  case h_1 identity location c issued asked _ =>
    have spares : identity.uuid ≠ uuid := by
      rw [show x.call = _ from asked] at spares
      exact spares
    exact if_neg spares
  case h_2 => rfl

end Dispatcher

open Dispatcher (Cancels Retires WasCancelled WasRetired)

/-- Where a job stands, and with which result, but for what operators have done. -/
structure Job.Stands (j : Job) (log : List (Entry Dispatcher.Call Dispatcher.Reply))
    (state : JobState) (result : JobResult) : Prop where
  retired : WasRetired log j.buildId → j.state = .rescheduled
  state : ¬WasRetired log j.buildId → j.state = state
  cancelled : ¬WasRetired log j.buildId → WasCancelled log j.buildId → j.result = .cancelled
  result : ¬WasRetired log j.buildId → ¬WasCancelled log j.buildId → j.result = result

namespace Job.Stands

variable {j j' : Job} {log : List (Entry Dispatcher.Call Dispatcher.Reply)} {state : JobState}
  {result : JobResult} {e : Entry Dispatcher.Call Dispatcher.Reply}

theorem nil (j : Job) : j.Stands [] j.state j.result where
  retired := fun ⟨_, asked, _⟩ => absurd asked List.not_mem_nil
  state _ := rfl
  cancelled := fun _ ⟨_, asked, _⟩ => absurd asked List.not_mem_nil
  result _ _ := rfl

/-- Nothing is done to the job by an operator, and nothing else happens to one that is retired. -/
theorem concat (h : j.Stands log state result) (same : j'.buildId = j.buildId)
    (uncancelled : ¬Cancels e j.buildId) (unretired : ¬Retires e j.buildId) {state' : JobState}
    {result' : JobResult} (ended : j.state = .rescheduled → j'.state = .rescheduled)
    (moved : j.state = state → j'.state = state')
    (kept : j.result = .cancelled → j'.result = .cancelled)
    (told : j.state = state → j.result = result → j'.result = result') :
    j'.Stands (log ++ [e]) state' result' := by
  have cancels : WasCancelled (log ++ [e]) j'.buildId ↔ WasCancelled log j.buildId := by
    rw [same, Dispatcher.wasCancelled_concat]
    exact or_iff_left uncancelled
  have retires : WasRetired (log ++ [e]) j'.buildId ↔ WasRetired log j.buildId := by
    rw [same, Dispatcher.wasRetired_concat]
    exact or_iff_left unretired
  constructor <;> rw [retires]
  · exact fun was => ended (h.retired was)
  · exact fun never => moved (h.state never)
  · rw [cancels]
    exact fun never was => kept (h.cancelled never was)
  · rw [cancels]
    exact fun never unmarked => told (h.state never) (h.result never unmarked)

/-- A job that an agent has is left where it stands by calls that do not speak for the agent. -/
theorem fares (h : j.Stands log state result) (fares : j.Fares e j') {uuid : String}
    (own : j.agent = some uuid) (spares : e.call.Spares uuid) :
    j'.agent = some uuid ∧ j'.Stands (log ++ [e]) state result := by
  have other {info : Snapshot} (own' : j.agent = some info.uuid) : info.uuid = uuid :=
    Option.some.inj (own'.symm.trans own)
  cases fares with
  | same uncancelled unretired =>
    exact ⟨own, h.concat rfl uncancelled unretired id id id fun _ => id⟩
  | heard said _ own' =>
    rw [said] at spares
    exact absurd (other own') spares
  | abandoned asked own' =>
    rw [asked] at spares
    exact absurd (other own') spares
  | marked cancels running =>
    have unretired : ¬WasRetired (log ++ [e]) j.buildId := by
      rw [Dispatcher.wasRetired_concat]
      rintro (was | retires)
      · rw [isTerminal, h.retired was] at running
        cases running
      · have both := cancels.1.symm.trans retires.1
        cases both
    have never : ¬WasRetired log j.buildId := fun was =>
      unretired (Dispatcher.wasRetired_concat.2 (.inl was))
    have marked : WasCancelled (log ++ [e]) j.buildId :=
      Dispatcher.wasCancelled_concat.2 (.inr cancels)
    have same : (j.conclude .cancelled).buildId = j.buildId :=
      congrArg JobRef.buildId (ref_conclude _ _)
    refine ⟨(agent_conclude _ _).trans own, ?_⟩
    constructor <;> rw [same]
    · exact fun was => absurd was unretired
    · exact fun _ => (state_conclude _ _).trans (h.state never)
    · exact fun _ _ => j.result_conclude_cancelled
    · exact fun _ unmarked => absurd marked unmarked
  | retired retires =>
    have was : WasRetired (log ++ [e]) j.buildId := Dispatcher.wasRetired_concat.2 (.inr retires)
    exact ⟨own, fun _ => rfl, absurd was, fun never => absurd was never,
      fun never => absurd was never⟩

/-- The next report of the agent is taken in, or turned away if the job was retired. -/
theorem heard (h : j.Stands log state result) {r : Report}
    (ahead : state.canAdvanceTo r.target = true)
    (firm : result = .cancelled → r.verdict result = .cancelled) (now : Timestamp) :
    (WasRetired log j.buildId ∧ j.hear now r = .error (.rejected .terminal) ∧
      ∀ e, ¬Cancels e j.buildId → ¬Retires e j.buildId →
        j.Stands (log ++ [e]) r.target (r.verdict result)) ∨
    ∃ j', j.hear now r = .ok j' ∧ j'.buildId = j.buildId ∧ j'.agent = j.agent ∧
      ∀ e, ¬Cancels e j.buildId → ¬Retires e j.buildId →
        j'.Stands (log ++ [e]) r.target (r.verdict result) := by
  have apart : ¬(j.state = .rescheduled ∧ j.state = state) := by
    rintro ⟨ended, rfl⟩
    rw [ended] at ahead
    cases ahead
  by_cases was : WasRetired log j.buildId
  · have ended := h.retired was
    refine .inl ⟨was, hear_of_rescheduled ended now r, fun e uncancelled unretired => ?_⟩
    exact h.concat rfl uncancelled unretired id (fun there => absurd ⟨ended, there⟩ apart) id
      fun there => absurd ⟨ended, there⟩ apart
  · have there := h.state was
    obtain ⟨j', heard, ref, agent, moved, told⟩ := hear_of_ahead (there ▸ ahead) now
    have same : j'.buildId = j.buildId := congrArg JobRef.buildId ref
    refine .inr ⟨j', heard, same, agent, fun e uncancelled unretired => ?_⟩
    refine h.concat same uncancelled unretired (fun ended => absurd ⟨ended, there⟩ apart)
      (fun _ => moved) (fun marked => told.trans (if_pos marked)) ?_
    rintro - rfl
    rw [told]
    split_ifs with cancelled
    · exact (firm cancelled).symm
    · rfl

end Job.Stands

/-- Each job stays as it is, or it waited and is handed out: none is made again, or anew. -/
def Board.RequeuesNothing (b b' : Board) : Prop := ∀ id k, b'.get? id = some k →
  ∃ j, b.get? id = some j ∧ (k = j ∨ j.state = .scheduled ∧ k.state = .assigned)

theorem Board.releaseAbandoned_of_ended {b : Board} {uuid : String} {id : BuildId} {j : Job}
    (noted : b.assignments.get? uuid = some id) (stored : b.get? id = some j)
    (ended : j.isTerminal = true) (now : Timestamp) : b.releaseAbandoned uuid now = (none, b) := by
  unfold releaseAbandoned
  rw [noted, Option.bind_some, stored]
  dsimp only
  rw [ended]
  rfl

theorem Dispatcher.requeuesNothing_getWork {d : Dispatcher} {info : Snapshot} {id : BuildId}
    {j : Job} (coherent : d.board.Coherent) (noted : d.board.assignments.get? info.uuid = some id)
    (stored : d.board.get? id = some j) (ended : j.isTerminal = true) (now : Timestamp) :
    d.board.RequeuesNothing (d.getWork info now).2.board := by
  intro i k stored'
  rcases getWork_cases d info now with ⟨-, same⟩ | next
  · exact ⟨k, same ▸ stored', .inl rfl⟩
  · rw [next] at stored'
    by_cases busy : info.status ≠ .idle ∨ info.currentJob.isSome = true
    · rw [nextWork_of_busy _ now busy] at stored'
      exact ⟨k, stored', .inl rfl⟩
    · obtain ⟨idle, free⟩ : info.status = .idle ∧ info.currentJob = none := by simpa using busy
      rw [nextWork_of_idle _ now idle free] at stored'
      change (nextAssignment d.board info now).2.get? i = some k at stored'
      unfold nextAssignment at stored'
      rw [Board.releaseAbandoned_of_ended noted stored ended] at stored'
      rcases (coherent.assignNext_effect now info).origin stored' with
        ⟨j', before, becomes⟩ | ⟨-, made, -⟩
      · generalize (d.board.assignNext info now).1 = given at becomes
        refine ⟨j', before, ?_⟩
        cases becomes with
        | same => exact .inl rfl
        | moved m =>
          cases m with
          | assigned waits => exact .inr ⟨waits, rfl⟩
        | retired _ r => cases r
      · cases made

/-- Nothing is known yet of how a waiting job ends. -/
def Board.Open (b : Board) : Prop :=
  ∀ {id j}, b.get? id = some j → j.state = .scheduled → j.result = .unknown

theorem Board.Effect.opened {b b' : Board} {now : Timestamp} {c : Board.Call} {a : Board.Answer}
    (e : b.Effect now c a b') (coherent : b.Coherent) (h : b.Open) : b'.Open := by
  intro id j' stored' waits
  rcases e.origin stored' with ⟨j, stored, becomes⟩ | ⟨-, -, ref, plan, rfl⟩
  · cases becomes with
    | same => exact h stored waits
    | moved m => exact absurd waits (m.begun (coherent.jobs stored))
    | retired => cases waits
  · rfl

namespace Dispatcher

theorem opened_perform {d : Dispatcher} (tended : d.board.Tended) (opened : d.board.Open)
    (now : Timestamp) (c : Call) : (d.perform now c).2.board.Open :=
  board_perform (P := Board.Open) (fun tended e h => e.opened tended.coherent h) (fun _ h => h)
    tended opened now c

theorem open_session (config : Config) (payload : PayloadStore) (steps : List (Step Call)) :
    (session config payload steps).state.board.Open :=
  board_session (P := Board.Open) (fun tended e h => e.opened tended.coherent h) (fun _ h => h)
    (fun stored => nomatch stored) config payload steps

/-- A job that has just been handed out is assigned, and nothing is known of its end. -/
theorem stands_of_given {d d' : Dispatcher} {info : Snapshot} {now : Timestamp} {a : Assignment}
    (tended : d.board.Tended) (opened : d.board.Open)
    (given : d.getWork info now = (.ok (.build a), d')) :
    d'.board.assignments.get? info.uuid = some a.job.buildId ∧
      ∃ j, d'.board.get? a.job.buildId = some j ∧ j.agent = some info.uuid ∧
        j.Stands [] .assigned .unknown := by
  have performed : d.perform now (.getWork info) = (.work (.ok (.build a)), d') := by
    simp only [perform, given]
  have noted := (tended_perform tended now (.getWork info)).2 info.uuid
  rw [performed] at noted
  refine ⟨noted.trans (by simp [given?]), ?_⟩
  rcases perform_cases d now (.getWork info) with ⟨info', asked, answer, board⟩ | ⟨nothing, -⟩
  · cases asked
    rw [performed] at answer board
    have released := tended.coherent.releaseAbandoned_effect now info.uuid
    have e := tended.nextAssignment_effect info now
    cases work : (nextAssignment d.board info now).1 with
    | none =>
      rw [work] at answer
      cases answer
    | some a' =>
      rw [work] at answer e
      cases answer
      rw [← show d'.board = _ from board] at e
      generalize d'.board = b' at e
      cases e with
      | still _ _ _ none => cases none
      | moved stored m =>
        cases m with
        | assigned waits =>
          have unknown := (released.opened tended.coherent opened) stored waits
          refine ⟨_, (Board.get?_commit _ _ _).trans (if_pos rfl), rfl, ?_⟩
          rw [← unknown]
          exact .nil _
      | replaced _ _ r => cases r
  · exact absurd (congrArg Prod.fst performed) (nothing a)

end Dispatcher

end BuildDispatch
