import BuildDispatch.Proofs.Board.Call
import Mathlib.Data.List.Chain
import Mathlib.Data.List.Nodup

/-!
The life of a job: which states follow each other, and what is written down of them. A job goes
forward, so that it enters no state twice (`Job.Recorded.nodup`).
-/
namespace BuildDispatch

namespace JobState

def LeadsTo (s t : JobState) : Prop :=
  s = .scheduled ∧ (t = .assigned ∨ t = .completed) ∨
    s.isTerminal = false ∧ t = .rescheduled ∨ s ≠ .scheduled ∧ s.canAdvanceTo t = true

instance (s t : JobState) : Decidable (s.LeadsTo t) := by
  unfold LeadsTo
  infer_instance

/-- The place of a state in the life of a job. A rescheduled job has gone as far as it can. -/
def place : JobState → Nat
  | scheduled => 0
  | assigned => 1
  | preparing => 2
  | building => 3
  | completing => 4
  | completed => 5
  | rescheduled => 6

theorem LeadsTo.place_lt {s t : JobState} (h : s.LeadsTo t) : s.place < t.place := by
  revert h
  cases s <;> cases t <;> decide

theorem place_lt_of_canAdvanceTo {s t : JobState} (h : s.canAdvanceTo t = true) :
    s.place < t.place := by
  revert h
  cases s <;> cases t <;> decide

theorem isTerminal_of_place_lt {s : JobState} (h : completing.place < s.place) :
    s.isTerminal = true := by
  revert h
  cases s <;> decide

theorem not_terminal_of_canAdvanceTo {s t : JobState} (h : s.canAdvanceTo t = true) :
    s.isTerminal = false := by
  revert h
  cases s <;> cases t <;> decide

theorem canAdvanceTo_completed {s : JobState} (h : s.isTerminal = false) :
    s.canAdvanceTo .completed = true := by
  revert h
  cases s <;> decide

end JobState

/-- Through which steps a call may take a job. -/
def Board.Call.Leads : Board.Call → JobState → JobState → Prop
  | .create .., _, _ => False
  | .assignNext _, s, t => s = .scheduled ∧ t = .assigned
  | .report .., s, t => s ≠ .scheduled ∧ s.canAdvanceTo t = true
  | .cancel _, s, t => s = .scheduled ∧ t = .completed
  | .reschedule _, s, t => s.isTerminal = false ∧ t = .rescheduled
  | .releaseAbandoned _, s, t =>
    s.isTerminal = false ∧ t = .rescheduled ∨ s ≠ .scheduled ∧ s.canAdvanceTo t = true

theorem Board.Call.Leads.leadsTo {c : Board.Call} {s t : JobState} (h : c.Leads s t) :
    s.LeadsTo t := by
  cases c with
  | create => exact h.elim
  | assignNext => exact .inl ⟨h.1, .inl h.2⟩
  | report => exact .inr (.inr h)
  | cancel => exact .inl ⟨h.1, .inr h.2⟩
  | reschedule => exact .inr (.inl h)
  | releaseAbandoned => exact .inr h

namespace Job

def path (j : Job) : List JobState := j.transitions.map (·.state)

@[simp] theorem buildId_enter (j : Job) (t : JobState) (now : Timestamp) :
    (j.enter t now).buildId = j.buildId := rfl

@[simp] theorem state_conclude (j : Job) (result : JobResult) :
    (j.conclude result).state = j.state := by
  unfold conclude
  split <;> rfl

@[simp] theorem agent_conclude (j : Job) (result : JobResult) :
    (j.conclude result).agent = j.agent := by
  unfold conclude
  split <;> rfl

@[simp] theorem ref_conclude (j : Job) (result : JobResult) : (j.conclude result).ref = j.ref := by
  unfold conclude
  split <;> rfl

@[simp] theorem plan_conclude (j : Job) (result : JobResult) :
    (j.conclude result).plan = j.plan := by
  unfold conclude
  split <;> rfl

@[simp] theorem transitions_conclude (j : Job) (result : JobResult) :
    (j.conclude result).transitions = j.transitions := by
  unfold conclude
  split <;> rfl

theorem result_conclude (j : Job) (result : JobResult) :
    (j.conclude result).result = if j.result = .cancelled then .cancelled else result := by
  unfold conclude
  split_ifs with h
  · exact h
  · rfl

theorem result_conclude_cancelled (j : Job) : (j.conclude .cancelled).result = .cancelled := by
  rw [result_conclude, ite_self]

theorem result_conclude_of_cancelled {j : Job} (h : j.result = .cancelled) (result : JobResult) :
    (j.conclude result).result = .cancelled := by
  rw [result_conclude, if_pos h]

theorem eq_cancelled_of_conclude {j : Job} {result : JobResult} (h : j.result ≠ .cancelled)
    (h' : (j.conclude result).result = .cancelled) : result = .cancelled := by
  rwa [result_conclude, if_neg h] at h'

/-- A job has the result that it was given last, unless it is cancelled. -/
theorem result_conclude_or (j : Job) (result : JobResult) :
    (j.conclude result).result = result ∨ (j.conclude result).result = .cancelled := by
  rw [result_conclude]
  split_ifs
  · exact .inr rfl
  · exact .inl rfl

/-- What is written down of a job: a path of allowed steps from its making to where it stands. -/
structure Recorded (j : Job) : Prop where
  first : j.path.head? = some .scheduled
  last : j.path.getLast? = some j.state
  steps : j.path.IsChain JobState.LeadsTo

theorem recorded_scheduled (ref : JobRef) (plan : Plan) (now : Timestamp) :
    (scheduled ref plan now).Recorded := ⟨rfl, rfl, List.isChain_singleton _⟩

theorem Recorded.extend {j j' : Job} (h : j.Recorded) {t : JobState} {now : Timestamp}
    (ht : j.state.LeadsTo t) (hs : j'.state = t)
    (hw : j'.transitions = j.transitions ++ [⟨t, now⟩]) : j'.Recorded := by
  have hp : j'.path = j.path ++ [t] := by
    unfold path
    rw [hw, List.map_append]
    rfl
  refine ⟨?_, ?_, ?_⟩
  · rw [hp, List.head?_append, h.first]
    rfl
  · rw [hp, List.getLast?_concat, hs]
  · rw [hp, List.isChain_append]
    refine ⟨h.steps, List.isChain_singleton _, ?_⟩
    intro s hs t' ht'
    rw [h.last] at hs
    cases Option.mem_some.1 hs
    cases Option.mem_some.1 ht'
    exact ht

theorem Recorded.same {j j' : Job} (h : j.Recorded) (hs : j'.state = j.state)
    (hw : j'.transitions = j.transitions) : j'.Recorded := by
  have hp : j'.path = j.path := congrArg (List.map Transition.state) hw
  refine ⟨?_, ?_, ?_⟩
  · rw [hp, h.first]
  · rw [hp, hs, h.last]
  · rw [hp]
    exact h.steps

/-- The places on the path strictly increase, so that no state occurs twice. -/
theorem Recorded.nodup {j : Job} (h : j.Recorded) : j.path.Nodup := by
  have hc : (j.path.map JobState.place).IsChain (· < ·) :=
    List.isChain_map_of_isChain _ (fun _ _ hl => hl.place_lt) h.steps
  have hn : (j.path.map JobState.place).Nodup := hc.pairwise.imp Nat.ne_of_lt
  exact hn.of_map _

/-- What a report does to a job that takes it in. -/
inductive Heard (j : Job) (now : Timestamp) : Report → Job → Prop where
  | advanced {t : JobState} (ahead : j.state.canAdvanceTo t = true) :
    Heard j now (.status t) (j.enter t now)
  | completing {result : JobResult} (ahead : j.state.canAdvanceTo .completing = true) :
    Heard j now (.completing result) ((j.conclude result).enter .completing now)
  | amended {result : JobResult} (there : j.state = .completing)
    (new : (j.conclude result).result ≠ j.result) :
    Heard j now (.completing result) (j.conclude result)
  | completed {result : JobResult} (ahead : j.state.canAdvanceTo .completed = true) :
    Heard j now (.completed result) ((j.conclude result).enter .completed now)

theorem Heard.agent_eq {j j' : Job} {now : Timestamp} {r : Report} (h : j.Heard now r j') :
    j'.agent = j.agent := by
  cases h <;> simp [enter]

theorem Heard.ne {j j' : Job} {now : Timestamp} {r : Report} (h : j.Heard now r j') : j' ≠ j := by
  intro he
  have hl : j'.transitions.length = j.transitions.length := by rw [he]
  cases h with
  | amended there new => exact new (congrArg Job.result he)
  | advanced => simp [enter] at hl
  | completing => simp [enter] at hl
  | completed => simp [enter] at hl

theorem heard_of_hear {j j' : Job} {now : Timestamp} {r : Report} (h : j.hear now r = .ok j') :
    j.Heard now r j' := by
  cases r with
  | status t =>
    unfold hear reportStatus at h
    dsimp only at h
    split_ifs at h with ht hd ha
    cases h
    exact .advanced ha
  | completing result =>
    unfold hear reportCompleting at h
    dsimp only at h
    split at h
    case h_1 => cases h
    case h_2 => cases h
    case h_3 there =>
      split_ifs at h with hd
      cases h
      exact .amended there hd
    case h_4 hc hr hn =>
      cases h
      exact .completing (by revert hc hr hn; cases j.state <;> decide)
  | completed result =>
    unfold hear reportCompleted at h
    dsimp only at h
    split at h
    case h_1 => cases h
    case h_2 => cases h
    case h_3 hc hr =>
      cases h
      exact .completed (by revert hc hr; cases j.state <;> decide)

end Job

end BuildDispatch
