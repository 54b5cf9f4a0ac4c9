import BuildDispatch.Proofs.Board.Report

/-!
Reports that arrive again. A job never goes back behind what a report made of it, so that an agent
may repeat a report at any time without harm (`Board.redelivered_report_refused`).
-/
namespace BuildDispatch

namespace Job

/-- The job is where a report takes it, or further on. -/
def Bears (j : Job) : Report → Prop
  | .status t => t.place ≤ j.state.place
  | .completing result => j.isTerminal = true ∨
    j.state = .completing ∧ (j.result = result ∨ j.result = .cancelled)
  | .completed _ => j.isTerminal = true

variable {j j' : Job} {now : Timestamp} {r : Report}

theorem bears_completing_conclude (hs : j.state = .completing) (result : JobResult) :
    (j.conclude result).Bears (.completing result) :=
  .inr ⟨(j.state_conclude result).trans hs, j.result_conclude_or result⟩

theorem Heard.bears (h : j.Heard now r j') : j'.Bears r := by
  cases h with
  | advanced => exact le_refl _
  | completing => exact .inr ⟨rfl, j.result_conclude_or _⟩
  | amended there => exact bears_completing_conclude there _
  | completed => rfl

theorem Bears.not_heard (h : j.Bears r) : ¬j.Heard now r j' := by
  intro heard
  cases heard with
  | advanced ahead => exact absurd h (Nat.not_le.2 (JobState.place_lt_of_canAdvanceTo ahead))
  | completing ahead =>
    rcases h with ended | ⟨there, -⟩
    · rw [isTerminal, JobState.not_terminal_of_canAdvanceTo ahead] at ended
      cases ended
    · rw [there] at ahead
      cases ahead
  | amended there new =>
    rcases h with ended | ⟨-, same | cancelled⟩
    · rw [isTerminal, there] at ended
      cases ended
    · rw [result_conclude, same] at new
      split_ifs at new with hc
      · exact new hc.symm
      · exact new rfl
    · exact new ((result_conclude_of_cancelled cancelled _).trans cancelled.symm)
  | completed ahead =>
    have ended : j.isTerminal = true := h
    rw [isTerminal, JobState.not_terminal_of_canAdvanceTo ahead] at ended
    cases ended

variable {copy : BuildId} {c : Board.Call} {a : Board.Answer}

theorem Becomes.place_le (hb : j.Becomes now copy c a j') (hj : j.Coherent) :
    j.state.place ≤ j'.state.place := by
  rcases hb.written hj with ⟨hs, -⟩ | ⟨t, ht, hs, -⟩
  · rw [hs]
  · rw [hs]
    exact ht.leadsTo.place_lt.le

/--
What a call makes of a job that is completing: it stays so with its result, unless the call marks it
or brings another result, or it ends.
-/
theorem Becomes.bears_completing {result : JobResult} (hb : j.Becomes now copy c a j')
    (there : j.state = .completing) (hr : j.result = result ∨ j.result = .cancelled)
    (unamended : ∀ uuid result', c = .report uuid j.buildId (.completing result') →
      a = .heard (.ok .accepted) → result' = result) : j'.Bears (.completing result) := by
  cases hb with
  | same => exact .inr ⟨there, hr⟩
  | retired => exact .inl rfl
  | moved m =>
    cases m with
    | assigned waits => rw [there] at waits; cases waits
    | heard own heard =>
      cases heard with
      | advanced ahead =>
        -- Beyond `completing` there are only states in which a job has ended.
        have hp := JobState.place_lt_of_canAdvanceTo ahead
        rw [there] at hp
        exact .inl (JobState.isTerminal_of_place_lt hp)
      | completing ahead => rw [there] at ahead; cases ahead
      | amended =>
        cases unamended _ _ rfl rfl
        exact bears_completing_conclude there _
      | completed => exact .inl rfl
    | dropped waits => rw [there] at waits; cases waits
    | marked => exact .inr ⟨(j.state_conclude _).trans there, .inr j.result_conclude_cancelled⟩
    | ended => exact .inl rfl

/-- A job goes on bearing a report, unless another result is reported. -/
theorem Becomes.bears (hb : j.Becomes now copy c a j') (hj : j.Coherent)
    (unamended : ∀ result uuid result', r = .completing result →
      c = .report uuid j.buildId (.completing result') → a = .heard (.ok .accepted) →
        result' = result) (h : j.Bears r) : j'.Bears r := by
  cases r with
  | status t => exact le_trans h (hb.place_le hj)
  | completed result =>
    have ended : j.isTerminal = true := h
    rwa [hb.eq_of_terminal ended]
  | completing result =>
    rcases h with ended | ⟨there, hr⟩
    · rw [hb.eq_of_terminal ended]
      exact .inl ended
    · exact hb.bears_completing there hr fun uuid result' => unamended result uuid result' rfl

end Job

namespace Board

def Bears (b : Board) (uuid : String) (id : BuildId) (r : Report) : Prop :=
  ∃ j, b.get? id = some j ∧ j.agent = some uuid ∧ j.Bears r

variable {b b' : Board} {uuid : String} {id : BuildId} {now : Timestamp} {r : Report}
  {answer : Except JobError ReportOutcome}

theorem Takes.bears (t : b.Takes uuid id now r answer b') (hc : b.Coherent)
    (ha : answer = .ok .accepted) : b'.Bears uuid id r := by
  obtain ⟨j, j', -, own, heard, changed⟩ := t.of_accepted hc ha
  exact ⟨j', changed.stored, heard.agent_eq.trans own, heard.bears⟩

theorem Takes.refused_of_bears (t : b.Takes uuid id now r answer b') (hc : b.Coherent)
    (h : b.Bears uuid id r) : answer ≠ .ok .accepted := by
  intro ha
  obtain ⟨j, stored, -, bears⟩ := h
  obtain ⟨k, _, stored', -, heard, -⟩ := t.of_accepted hc ha
  rw [stored] at stored'
  cases stored'
  exact bears.not_heard heard

/-- A report is borne throughout later calls, unless one of them reports another result. -/
theorem Sound.bears {s : Session Board} (h : Sound s) {later : List (Step Call)}
    (few : (made (s.run later).log).length < 2 ^ 64 - 1) (bears : s.state.Bears uuid id r)
    (unamended : ∀ earlier x rest, later = earlier ++ x :: rest → ∀ result uuid' result',
      r = .completing result → x.call = .report uuid' id (.completing result') →
        ((s.run earlier).state.hear uuid' id x.now (.completing result')).1 = .ok .accepted →
          result' = result) : (s.run later).state.Bears uuid id r := by
  obtain ⟨j, stored, own, hj⟩ := bears
  refine h.kept few (P := fun k => k.agent = some uuid ∧ k.Bears r) ?_ stored ⟨own, hj⟩
  intro earlier x rest hl k k' hk hkc hb hp
  refine ⟨(hb.follows hkc).agent hp.1, hb.bears hkc ?_ hp.2⟩
  intro result uuid' result' hr hx ha
  have hid : k.buildId = id := (h.run earlier).coherent.keyed hk
  rw [hid] at hx
  rw [hx] at ha
  exact unamended earlier x rest hl result uuid' result' hr hx (Answer.heard.inj ha)

/--
A report that was accepted once is not accepted again, however late it arrives: it only raises a
count. If it says that the job is completing, no other result may have been accepted in between.
-/
theorem redelivered_report_refused (steps later : List (Step Call)) (uuid : String) (id : BuildId)
    (r : Report) (now again : Timestamp)
    (few : (made (session (steps ++ ⟨.report uuid id r, now⟩ :: later)).log).length < 2 ^ 64 - 1)
    (taken : ((session steps).state.hear uuid id now r).1 = .ok .accepted)
    (unamended : ∀ earlier x rest, later = earlier ++ x :: rest → ∀ result uuid' result',
      r = .completing result → x.call = .report uuid' id (.completing result') →
        ((session (steps ++ ⟨.report uuid id r, now⟩ :: earlier)).state.hear uuid' id x.now
          (.completing result')).1 = .ok .accepted → result' = result) :
    let b := (session (steps ++ ⟨.report uuid id r, now⟩ :: later)).state
    (b.hear uuid id again r).1 ≠ .ok .accepted ∧
      (b.hear uuid id again r).2.get? id = b.get? id ∧
      ∃ cause, b.Refused (b.hear uuid id again r).2 cause := by
  intro b
  -- The later calls are a run from where the report was accepted.
  have hrun : ∀ steps', session (steps ++ ⟨.report uuid id r, now⟩ :: steps') =
      ((session steps).call ⟨.report uuid id r, now⟩).run steps' :=
    fun _ => session_append _ _
  simp only [hrun] at few unamended
  have hc := coherent_session steps
  have first : ((session steps).call ⟨.report uuid id r, now⟩).state.Bears uuid id r :=
    (hc.takes uuid id now r).bears hc taken
  have last : b.Bears uuid id r := by
    have hl := ((sound_session steps).call ⟨.report uuid id r, now⟩).bears few first unamended
    rwa [← hrun] at hl
  have hb : b.Coherent := coherent_session _
  have t := hb.takes uuid id again r
  have refused := t.refused_of_bears hb last
  obtain ⟨cause, -, hr, -⟩ := t.of_refused refused
  refine ⟨refused, ?_, cause, hr⟩
  rw [hr.kept]
  rfl

theorem redelivered_report_refused_contested :
    ((session (contested.take 8)).state.hear "u1" 1 11 (.completing .passed)).1 = .ok .accepted ∧
      ((session contested).state.hear "u1" 1 20 (.completing .passed)).1 ≠ .ok .accepted := by
  have taken : ((session (contested.take 8)).state.hear "u1" 1 11 (.completing .passed)).1 =
      .ok .accepted := by decide
  refine ⟨taken, (redelivered_report_refused (contested.take 8) (contested.drop 9) "u1" 1
    (.completing .passed) 11 20 (by decide) taken ?_).1⟩
  intro earlier x rest hl result uuid result' hr hx
  have hm : x ∈ contested.drop 9 := by
    rw [hl]
    simp
  simp only [contested, List.drop, List.mem_cons, List.not_mem_nil, or_false] at hm
  rcases hm with rfl | rfl | rfl <;> cases hx

end Board

end BuildDispatch
