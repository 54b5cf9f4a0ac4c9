import BuildDispatch.Proofs.Dispatcher.Standing

/-!
Jobs that are taken back from an agent: an operator cancels them, or they are to be made again. As
long as an agent reports no other job as cancelled, no other job of it has that result
(`Dispatcher.Blameless`).
-/
namespace BuildDispatch

theorem Job.Heard.verdict {j j' : Job} {now : Timestamp} {r : Report} (h : j.Heard now r j')
    (cancelled : j'.result = .cancelled) :
    j.result = .cancelled ∨ r.verdict .unknown = .cancelled := by
  refine or_iff_not_imp_left.2 fun new => ?_
  cases h with
  | advanced => exact absurd cancelled new
  | completing | amended | completed => exact eq_cancelled_of_conclude new cancelled

namespace Job.Fares

open Dispatcher (Cancels)

variable {j j' : Job} {e : Entry Dispatcher.Call Dispatcher.Reply}

theorem agent_eq (h : j.Fares e j') : j'.agent = j.agent := by
  cases h with
  | same => rfl
  | heard _ _ _ heard => exact heard.agent_eq
  | marked => exact agent_conclude _ _
  | retired | abandoned => rfl

theorem rescheduled (h : j.Fares e j') (before : j.state = .rescheduled) :
    j'.state = .rescheduled := by
  have ended : j.isTerminal = true := by
    rw [isTerminal, before]
    rfl
  cases h with
  | same => exact before
  | heard _ _ own heard =>
    have running := (Job.Moved.heard own heard).running
    rw [ended] at running
    cases running
  | marked _ running | retired _ running | abandoned _ _ running =>
    rw [ended] at running
    cases running

/-- A job has the result Cancelled since its agent or an operator gave it that. -/
theorem cancelled (h : j.Fares e j') (after : j'.result = .cancelled) :
    j.result = .cancelled ∨ Cancels e j.buildId ∨ ∃ info ref r, e.call = .report info ref r ∧
      ref.buildId = j.buildId ∧ j.agent = some info.uuid ∧ r.verdict .unknown = .cancelled := by
  cases h with
  | same | retired | abandoned => exact .inl after
  | heard said about own heard =>
    exact (heard.verdict after).imp_right fun told => .inr ⟨_, _, _, said, about, own, told⟩
  | marked cancels => exact .inr (.inl cancels)

end Job.Fares

namespace Dispatcher

/-- The job was handed out to the agent with one of these calls. -/
def Handed (uuid : String) (log : List (Entry Call Reply)) (id : BuildId) : Prop :=
  ∃ e ∈ log, given? uuid e = some id

/-- The job was taken back: it was cancelled by an operator, or it is to be made again. -/
def Revoked (s : Session Dispatcher) (id : BuildId) : Prop :=
  WasCancelled s.log id ∨ ∃ j, s.state.board.get? id = some j ∧ j.state = .rescheduled

def Call.GivesUp (uuid : String) (c : Call) (id : BuildId) : Prop :=
  ∃ info ref r, c = .report info ref r ∧ info.uuid = uuid ∧ ref.buildId = id ∧
    r.verdict .unknown = .cancelled

instance (s : Session Dispatcher) (id : BuildId) : Decidable (Revoked s id) :=
  have : Decidable (∃ j, s.state.board.get? id = some j ∧ j.state = .rescheduled) :=
    inferInstanceAs (Decidable (∃ j ∈ s.state.board.get? id, j.state = .rescheduled))
  inferInstanceAs (Decidable (_ ∨ _))

instance (uuid : String) (c : Call) (id : BuildId) : Decidable (c.GivesUp uuid id) :=
  match c with
  | .report info ref r =>
    decidable_of_iff (info.uuid = uuid ∧ ref.buildId = id ∧ r.verdict .unknown = .cancelled)
      ⟨fun h => ⟨info, ref, r, rfl, h⟩, fun ⟨_, _, _, same, h⟩ => by cases same; exact h⟩
  | .ping _ | .getWork _ | .getCookie .. | .trigger _ | .cancelJob _ | .rescheduleJob _
  | .approveAgent _ | .disableAgent _ | .sweepLostContact _ =>
    isFalse fun ⟨_, _, _, h, _⟩ => nomatch h

/--
Of the jobs that were handed to an agent, only those are cancelled, and are reported so, that were
taken back.
-/
structure Blameless (config : Config) (uuid : String) (s : Session Dispatcher) : Prop where
  orderly : s.state.Orderly config
  opened : s.state.board.Open
  handed : ∀ {id}, Handed uuid s.log id → ∃ j, s.state.board.get? id = some j ∧
    j.agent = some uuid ∧ (j.result = .cancelled → Revoked s id)
  reported : ∀ {e id}, e ∈ s.log → e.call.GivesUp uuid id → Revoked s id

variable {config : Config} {uuid : String} {s : Session Dispatcher} {id : BuildId}

theorem handed_call (x : Step Call) : Handed uuid (s.call x).log id ↔
    Handed uuid s.log id ∨ given? uuid ⟨x, (s.state.perform x.now x.call).1⟩ = some id := by
  rw [Session.log_call]
  simp only [Handed, List.mem_append, List.mem_singleton, or_and_right, exists_or, exists_eq_left]
  rfl

theorem Revoked.call (h : Revoked s id) (orderly : s.state.Orderly config) (x : Step Call)
    (few : (s.call x).state.board.Few) : Revoked (s.call x) id := by
  rcases h with cancelled | ⟨j, stored, rescheduled⟩
  · exact .inl (wasCancelled_concat.2 (.inl cancelled))
  · have begun : j.state ≠ .scheduled := by simp [rescheduled]
    obtain ⟨j', stored', fares⟩ := fares orderly x few stored begun
    exact .inr ⟨j', stored', fares.rescheduled rescheduled⟩

/-- A job that has just been handed out is not cancelled. -/
theorem stands_of_given? {x : Step Call} (orderly : s.state.Orderly config)
    (opened : s.state.board.Open)
    (given : given? uuid ⟨x, (s.state.perform x.now x.call).1⟩ = some id) :
    ∃ j, (s.call x).state.board.get? id = some j ∧ j.agent = some uuid ∧ j.result = .unknown := by
  obtain ⟨c, now⟩ := x
  unfold given? at given
  split at given
  case h_1 info a asked answered =>
    cases asked
    split_ifs at given with own
    cases given
    subst own
    have answer : s.state.getWork info now =
        (.ok (.build a), (s.call ⟨.getWork info, now⟩).state) :=
      Prod.ext (Reply.work.inj answered) rfl
    obtain ⟨-, j, stored, own, stands⟩ := stands_of_given orderly.tended opened answer
    have untouched (f : Entry Call Reply → BuildId → Prop) (k : BuildId) :
        ¬∃ e ∈ ([] : List (Entry Call Reply)), f e k := by simp
    exact ⟨j, stored, own, stands.result (untouched Retires _) (untouched Cancels _)⟩
  case h_2 => cases given

theorem Blameless.call (h : Blameless config uuid s) (x : Step Call)
    (few : (s.call x).state.board.Few)
    (honest : ∀ id, x.call.GivesUp uuid id → Revoked s id) :
    Blameless config uuid (s.call x) where
  orderly := h.orderly.perform x.now x.call
  opened := opened_perform h.orderly.tended h.opened x.now x.call
  handed := by
    intro id handed
    rcases (handed_call x).1 handed with before | given
    · obtain ⟨j, stored, own, excused⟩ := h.handed before
      have keyed := h.orderly.tended.coherent.keyed stored
      have begun := (h.orderly.tended.coherent.jobs stored).begun own
      obtain ⟨j', stored', fares⟩ := fares h.orderly x few stored begun
      refine ⟨j', stored', fares.agent_eq.trans own, fun cancelled => ?_⟩
      rcases fares.cancelled cancelled with
        already | cancels | ⟨info, ref, r, said, about, own', told⟩
      · exact (excused already).call h.orderly x few
      · exact .inl (wasCancelled_concat.2 (.inr (keyed ▸ cancels)))
      · have gives : x.call.GivesUp uuid id :=
          ⟨info, ref, r, said, Option.some.inj (own'.symm.trans own), about.trans keyed, told⟩
        exact (honest id gives).call h.orderly x few
    · obtain ⟨j, stored, own, unknown⟩ := stands_of_given? h.orderly h.opened given
      refine ⟨j, stored, own, fun cancelled => ?_⟩
      rw [unknown] at cancelled
      cases cancelled
  reported := by
    intro e id asked gives
    rcases List.mem_append.1 asked with before | now
    · exact (h.reported before gives).call h.orderly x few
    · cases List.mem_singleton.1 now
      exact (honest id gives).call h.orderly x few

end Dispatcher

end BuildDispatch
