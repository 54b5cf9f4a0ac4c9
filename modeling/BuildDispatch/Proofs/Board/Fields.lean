import BuildDispatch.Proofs.Board.Report

/-!
How the state, the result and the agent of a job go together. Each is written on its own, by six
kinds of calls, but not every combination occurs; in particular nobody is heard on a job that was
given to nobody (`Board.fields_agree`).
-/
namespace BuildDispatch

namespace Job

/-- It is known how the run of the job went. -/
def Judged (j : Job) : Prop := j.result = .passed ∨ j.result = .failed

/-- Which agent and which result go with a state. -/
structure Consistent (j : Job) : Prop where
  waiting : j.state = .scheduled → j.agent = none ∧ j.result = .unknown
  running : j.state = .assigned ∨ j.state = .preparing ∨ j.state = .building →
    j.agent ≠ none ∧ (j.result = .unknown ∨ j.result = .cancelled)
  completing : j.state = .completing → j.agent ≠ none
  judged : j.Judged →
    (j.state = .completing ∨ j.state = .completed ∨ j.state = .rescheduled) ∧ j.agent ≠ none
  unclaimed : j.state = .completed → j.agent = none → j.result = .cancelled

theorem not_judged {j : Job} : ¬j.Judged ↔ j.result = .unknown ∨ j.result = .cancelled := by
  unfold Judged
  cases j.result <;> decide

theorem consistent_scheduled (ref : JobRef) (plan : Plan) (now : Timestamp) :
    (scheduled ref plan now).Consistent := by
  constructor <;> simp [scheduled, Judged]

variable {j j' : Job} {now : Timestamp} {copy : BuildId} {c : Board.Call} {a : Board.Answer}

/-- For a job that has an agent, all there is to see to is that no result comes too early. -/
theorem consistent_of_agent {uuid : String} (own : j.agent = some uuid)
    (begun : j.state ≠ .scheduled)
    (late : j.Judged → JobState.completing.place ≤ j.state.place) : j.Consistent where
  waiting waits := absurd waits begun
  running early := by
    refine ⟨by simp [own], not_judged.1 fun judged => ?_⟩
    have h := late judged
    revert h
    rcases early with hs | hs | hs <;> rw [hs] <;> decide
  completing _ := by simp [own]
  judged judged := by
    have h := late judged
    refine ⟨?_, by simp [own]⟩
    revert h
    cases j.state <;> decide
  unclaimed _ unowned := by rw [own] at unowned; cases unowned

theorem Consistent.late (h : j.Consistent) (judged : j.Judged) :
    JobState.completing.place ≤ j.state.place := by
  rcases (h.judged judged).1 with hs | hs | hs <;> rw [hs] <;> decide

theorem Consistent.owned (h : j.Consistent) (begun : j.state ≠ .scheduled)
    (running : j.isTerminal = false) : ∃ uuid, j.agent = some uuid := by
  refine Option.ne_none_iff_exists'.1 ?_
  unfold isTerminal at running
  cases hs : j.state with
  | scheduled => exact absurd hs begun
  | assigned => exact (h.running (.inl hs)).1
  | preparing => exact (h.running (.inr (.inl hs))).1
  | building => exact (h.running (.inr (.inr hs))).1
  | completing => exact h.completing hs
  | completed => rw [hs] at running; cases running
  | rescheduled => rw [hs] at running; cases running

theorem Heard.late {r : Report} (h : j.Consistent) (heard : j.Heard now r j')
    (judged : j'.Judged) : JobState.completing.place ≤ j'.state.place := by
  cases heard with
  | advanced ahead =>
    have before : j.Judged := judged
    exact (h.late before).trans (JobState.place_lt_of_canAdvanceTo ahead).le
  | completing => exact le_rfl
  | amended there => rw [state_conclude, there]
  | completed => exact Nat.le_succ _

theorem Moved.consistent (m : j.Moved now c a j') (hj : j.Coherent) (h : j.Consistent) :
    j'.Consistent := by
  have begun := m.begun hj
  cases m with
  | assigned waits =>
    have unknown : j.result = .unknown := (h.waiting waits).2
    refine consistent_of_agent rfl begun fun judged => ?_
    exact absurd judged (not_judged.2 (.inl unknown))
  | heard own heard =>
    exact consistent_of_agent (heard.agent_eq.trans own) begun (heard.late h)
  | dropped =>
    -- The only way to an end without an agent, and it leaves a mark.
    have cancelled := j.result_conclude_cancelled
    constructor <;> simp [enter, cancelled, Judged]
  | marked waits running =>
    obtain ⟨uuid, own⟩ := h.owned waits running
    refine consistent_of_agent ((j.agent_conclude _).trans own) begun fun judged => ?_
    exact absurd judged (not_judged.2 (.inr j.result_conclude_cancelled))
  | ended own => exact consistent_of_agent own begun fun _ => Nat.le_succ _

theorem Becomes.consistent (hb : j.Becomes now copy c a j') (hj : j.Coherent)
    (h : j.Consistent) : j'.Consistent := by
  cases hb with
  | same => exact h
  | moved m => exact m.consistent hj h
  | retired =>
    have kept : (j.enter .rescheduled now).Judged → j.agent ≠ none :=
      fun judged => (h.judged judged).2
    exact ⟨nofun, by simp [enter], nofun, fun judged => ⟨.inr (.inr rfl), kept judged⟩, nofun⟩

end Job

namespace Board

def Consistent (b : Board) : Prop := ∀ id j, b.get? id = some j → j.Consistent

theorem Effect.consistent {b b' : Board} {now : Timestamp} {c : Call} {a : Answer}
    (e : b.Effect now c a b') (hc : b.Coherent) (h : b.Consistent) : b'.Consistent := by
  intro id j' stored'
  rcases e.origin stored' with ⟨j, stored, hb⟩ | ⟨-, -, ref, plan, rfl⟩
  · exact hb.consistent (hc.jobs stored) (h id j stored)
  · exact Job.consistent_scheduled _ _ _

theorem consistent_session (steps : List (Step Call)) : (session steps).state.Consistent := by
  have hk : Sound (session steps) ∧ (session steps).state.Consistent := by
    refine Session.run_keeps (P := fun s => Sound s ∧ s.state.Consistent) ?_
      ⟨sound_session [], fun _ _ stored => by cases stored⟩ steps
    rintro s x ⟨sound, h⟩
    exact ⟨sound.call x, (sound.coherent.perform_effect x.now x.call).consistent sound.coherent h⟩
  exact hk.2

/-- Nobody is heard on a job that has no agent: what the report would do is not even asked. -/
theorem Coherent.report_of_unowned {b : Board} (h : b.Coherent) {id : BuildId} {j : Job}
    (stored : b.get? id = some j) (unowned : j.agent = none) (uuid : String)
    (change : Job → Except ReportOutcome Job) :
    b.report uuid id change = (.error (.agentMismatch id none uuid), b.countMismatch) := by
  have foreign : j.isAssignedTo uuid = false := by simp [Job.isAssignedTo, unowned]
  unfold report
  rw [stored]
  simp only [foreign, unowned, h.keyed stored]
  rfl

/--
In every session the agent and the result of each job go with its state. A job that waits, or that
nobody was given, is changed by no report: whoever sends it, and whatever it would make of the job.
-/
theorem fields_agree (steps : List (Step Call)) :
    let b := (session steps).state
    (∀ id j, b.get? id = some j → j.Consistent) ∧
    ∀ id j, b.get? id = some j → j.state = .scheduled ∨ j.agent = none →
      ∀ uuid change,
        b.report uuid id change = (.error (.agentMismatch id none uuid), b.countMismatch) := by
  intro b
  have consistent : b.Consistent := consistent_session steps
  refine ⟨consistent, fun id j stored unheard uuid change => ?_⟩
  have unowned : j.agent = none := by
    rcases unheard with waits | unowned
    · exact ((consistent id j stored).waiting waits).1
    · exact unowned
  exact (coherent_session steps).report_of_unowned stored unowned uuid change

/-- The job that was cancelled while it waited stays nobody's, whoever says that it passed. -/
theorem fields_agree_relay :
    (∃ j, (session relay).state.get? 2 = some j ∧ j.state = .completed ∧ j.agent = none ∧
      j.Consistent) ∧
    ((session relay).state.reportCompleted "u2" 2 .passed 20).1 =
      .error (.agentMismatch 2 none "u2") := by
  obtain ⟨j, stored, ended, unowned⟩ : ∃ j, (session relay).state.get? 2 = some j ∧
      j.state = .completed ∧ j.agent = none := by
    have held : ((session relay).state.get? 2).map (fun j => (j.state, j.agent)) =
        some (.completed, none) := by decide
    obtain ⟨j, stored, h⟩ := Option.map_eq_some_iff.1 held
    exact ⟨j, stored, congrArg Prod.fst h, congrArg Prod.snd h⟩
  have agree := fields_agree relay
  refine ⟨⟨j, stored, ended, unowned, agree.1 2 j stored⟩, ?_⟩
  exact congrArg Prod.fst (agree.2 2 j stored (.inr unowned) "u2" _)

end Board

end BuildDispatch
