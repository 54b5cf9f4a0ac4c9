import BuildDispatch.Proofs.Board.Sound

/-!
The history of a job: what is written down of it is a path of allowed steps, each taken by a call
that may take it, and nothing is added once the job has ended (`Board.history_of_jobs`).
-/
namespace BuildDispatch.Board

def readings (log : List (Entry Call Answer)) : List Timestamp := log.map (·.now)

theorem readings_call (s : Session Board) (x : Step Call) :
    readings (s.call x).log = readings s.log ++ [x.now] := by
  unfold readings
  rw [Session.log_call, List.map_append]
  rfl

theorem readings_session (steps : List (Step Call)) :
    readings (session steps).log = steps.map (·.now) := Session.map_log_run steps Step.now empty

/-- The stamps of jobs are readings of the clock, in the order of the calls. -/
def Stamped (s : Session Board) : Prop :=
  ∀ id j, s.state.get? id = some j → (∀ t ∈ j.transitions, t.stamp ∈ readings s.log) ∧
    ((readings s.log).Pairwise (· ≤ ·) → (j.transitions.map (·.stamp)).Pairwise (· ≤ ·))

theorem Stamped.call {s : Session Board} (h : Stamped s) (hc : s.state.Coherent) (x : Step Call) :
    Stamped (s.call x) := by
  intro id j' stored'
  rw [readings_call]
  have e := hc.perform_effect x.now x.call
  rcases e.origin stored' with ⟨j, stored, hb⟩ | ⟨-, -, ref, plan, rfl⟩
  · obtain ⟨hm, hp⟩ := h id j stored
    rcases hb.written (hc.jobs stored) with ⟨-, hw⟩ | ⟨t, -, -, hw⟩
    · rw [hw]
      refine ⟨fun t ht => List.mem_append_left _ (hm t ht), fun ho => hp ?_⟩
      exact (List.pairwise_append.1 ho).1
    · rw [hw]
      constructor
      · intro u hu
        rcases List.mem_append.1 hu with hu | hu
        · exact List.mem_append_left _ (hm u hu)
        · rw [List.mem_singleton.1 hu]
          exact List.mem_append_right _ (List.mem_singleton_self _)
      · intro ho
        obtain ⟨ho, -, hl⟩ := List.pairwise_append.1 ho
        rw [List.map_append, List.pairwise_append]
        refine ⟨hp ho, List.pairwise_singleton _ _, ?_⟩
        intro a ha b hb
        obtain ⟨u, hu, rfl⟩ := List.mem_map.1 ha
        rw [List.map_singleton] at hb
        rw [List.mem_singleton.1 hb]
        exact hl u.stamp (hm u hu) x.now (List.mem_singleton_self _)
  · constructor
    · intro u hu
      rw [List.mem_singleton.1 hu]
      exact List.mem_append_right _ (List.mem_singleton_self _)
    · intro _
      exact List.pairwise_singleton _ _

theorem stamped_session (steps : List (Step Call)) : Stamped (session steps) := by
  have hk : Sound (session steps) ∧ Stamped (session steps) := by
    refine Session.run_keeps (P := fun s => Sound s ∧ Stamped s) ?_ ⟨sound_session [], ?_⟩ steps
    · intro s x h
      exact ⟨h.1.call x, h.2.call h.1.coherent x⟩
    · intro id j h
      cases h
  exact hk.2

/--
Every job starts out scheduled, goes from state to state as allowed and never comes back to one. A
call adds at most one state, and only one to which it may lead; a job that has ended stays as it is.
-/
theorem history_of_jobs (steps : List (Step Call))
    (few : (made (session steps).log).length < 2 ^ 64 - 1) :
    (∀ id j, (session steps).state.get? id = some j →
      j.path ≠ [] ∧ j.path.head? = some .scheduled ∧ j.path.getLast? = some j.state ∧
      j.path.IsChain JobState.LeadsTo ∧ j.path.Nodup ∧
      ((steps.map (·.now)).Pairwise (· ≤ ·) → (j.transitions.map (·.stamp)).Pairwise (· ≤ ·))) ∧
    (∀ earlier x later, steps = earlier ++ x :: later → ∀ id,
      (∀ j, (session earlier).state.get? id = some j →
        ∃ j', (session (earlier ++ [x])).state.get? id = some j' ∧
          (j'.state = j.state ∧ j'.transitions = j.transitions ∨
            ∃ t, x.call.Leads j.state t ∧ j'.state = t ∧
              j'.transitions = j.transitions ++ [⟨t, x.now⟩])) ∧
      ((session earlier).state.get? id = none →
        ∀ j', (session (earlier ++ [x])).state.get? id = some j' →
          j'.state = .scheduled ∧ j'.transitions = [⟨.scheduled, x.now⟩])) ∧
    ∀ earlier later, steps = earlier ++ later → ∀ id j,
      (session earlier).state.get? id = some j → j.isTerminal = true →
        (session steps).state.get? id = some j := by
  refine ⟨?_, ?_, ?_⟩
  · intro id j stored
    have hr := ((coherent_session steps).jobs stored).recorded
    have hs := (stamped_session steps id j stored).2
    rw [readings_session] at hs
    refine ⟨?_, hr.first, hr.last, hr.steps, hr.nodup, hs⟩
    intro hn
    have hf := hr.first
    rw [hn] at hf
    cases hf
  · rintro earlier x later rfl id
    have hc := coherent_session earlier
    have hn := numbered_of_append few
    have e := effect_session earlier x
    constructor
    · intro j stored
      obtain ⟨j', stored', hb⟩ := e.becomes stored (e.made?_ne hn stored)
      exact ⟨j', stored', hb.written (hc.jobs stored)⟩
    · intro absent j' stored'
      rcases e.origin stored' with ⟨j, stored, -⟩ | ⟨-, -, ref, plan, rfl⟩
      · rw [absent] at stored
        cases stored
      · exact ⟨rfl, rfl⟩
  · rintro earlier later rfl id j stored ended
    rw [session_append] at few ⊢
    obtain ⟨j', stored', hf⟩ := (sound_session earlier).follows few stored
    rw [hf.ended ended] at stored'
    exact stored'

theorem history_of_jobs_relay :
    (made (session relay).log).length < 2 ^ 64 - 1 ∧
      ∃ j, (session relay).state.get? 3 = some j ∧ j.path = [.scheduled, .assigned, .completed] ∧
        j.path.IsChain JobState.LeadsTo ∧ (j.transitions.map (·.stamp)).Pairwise (· ≤ ·) := by
  have few : (made (session relay).log).length < 2 ^ 64 - 1 := by decide
  have hp : (((session relay).state.get? 3).map (·.path)) =
      some [.scheduled, .assigned, .completed] := by decide
  obtain ⟨j, stored, hp⟩ := Option.map_eq_some_iff.1 hp
  obtain ⟨-, -, -, hc, -, hs⟩ := (history_of_jobs relay few).1 3 j stored
  exact ⟨few, j, stored, hp, hc, hs (by decide)⟩

end BuildDispatch.Board
