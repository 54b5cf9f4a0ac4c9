import BuildDispatch.Proofs.Board.Sound

/-!
At-most-once dispatch: no job is handed out twice, and a job has an agent exactly if it was handed
out to that agent (`Board.handed_out_at_most_once`).
-/
namespace BuildDispatch.Board

/-- Whether a call handed a job out to an agent. -/
def Gives (e : Entry Call Answer) (uuid : String) (id : BuildId) : Prop :=
  ∃ info, e.call = .assignNext info ∧ info.uuid = uuid ∧ e.answer.given? = some id

def Owns (b : Board) (uuid : String) (id : BuildId) : Prop :=
  ∃ j, b.get? id = some j ∧ j.agent = some uuid

/-- Owners are those to whom the log says that jobs were handed out. -/
structure Dealt (s : Session Board) : Prop where
  owned : ∀ uuid id, s.state.Owns uuid id ↔ ∃ e ∈ s.log, Gives e uuid id
  owner : ∀ id ∈ given s.log, ∃ uuid, s.state.Owns uuid id
  nodup : (given s.log).Nodup

theorem dealt_start : Dealt (.start empty) where
  owned := by
    intro uuid id
    constructor
    · rintro ⟨j, h, -⟩; cases h
    · rintro ⟨e, h, -⟩; cases h
  owner := by intro id h; cases h
  nodup := .nil

variable {s : Session Board} {x : Step Call}

theorem owns_call (hc : s.state.Coherent) (hn : s.state.Numbered) {uuid : String} {id : BuildId}
    (h : s.state.Owns uuid id) : (s.call x).state.Owns uuid id := by
  obtain ⟨j, stored, own⟩ := h
  have e := hc.perform_effect x.now x.call
  obtain ⟨j', stored', hb⟩ := e.becomes stored (e.made?_ne hn stored)
  exact ⟨j', stored', (hb.follows (hc.jobs stored)).agent own⟩

theorem owns_of_owns_call (hc : s.state.Coherent) {uuid : String} {id : BuildId}
    (h : (s.call x).state.Owns uuid id) :
    s.state.Owns uuid id ∨ ∃ info, x.call = .assignNext info ∧ info.uuid = uuid ∧
      (s.state.perform x.now x.call).1.given? = some id := by
  obtain ⟨j', stored', own'⟩ := h
  have e := hc.perform_effect x.now x.call
  rcases e.owned hc stored' own' with ⟨j, stored, own, -⟩ | hg
  · exact .inl ⟨j, stored, own⟩
  · exact .inr hg

/-- Whoever is given a job owns it then, and nobody owned it before. -/
theorem owns_of_given? (hc : s.state.Coherent) {id : BuildId}
    (hg : (s.state.perform x.now x.call).1.given? = some id) :
    ∃ info, x.call = .assignNext info ∧ (s.call x).state.Owns info.uuid id ∧
      ∀ uuid, ¬ s.state.Owns uuid id := by
  have e := hc.perform_effect x.now x.call
  obtain ⟨info, j, j', ha, stored, waits, stored', own', -⟩ := e.of_given? hg
  refine ⟨info, ha, ⟨j', stored', own'⟩, ?_⟩
  rintro uuid ⟨k, hk, own⟩
  rw [stored] at hk
  cases hk
  exact (hc.jobs stored).begun own waits

theorem Dealt.call (h : Dealt s) (hc : s.state.Coherent) (hn : s.state.Numbered) :
    Dealt (s.call x) where
  owned := by
    intro uuid id
    simp only [Session.log_call, List.mem_append, List.mem_singleton, or_and_right, exists_or,
      exists_eq_left]
    constructor
    · intro ho
      rcases owns_of_owns_call hc ho with ho | ⟨info, ha, hu, hg⟩
      · exact .inl ((h.owned uuid id).1 ho)
      · exact .inr ⟨info, ha, hu, hg⟩
    · rintro (he | ⟨info, ha, rfl, hg⟩)
      · exact owns_call hc hn ((h.owned uuid id).2 he)
      · obtain ⟨info', ha', ho, -⟩ := owns_of_given? hc hg
        have hi : info = info' := Call.assignNext.inj (ha.symm.trans ha')
        exact hi ▸ ho
  owner := by
    intro id hi
    rw [given_call, List.mem_append, Option.mem_toList] at hi
    rcases hi with hi | hg
    · obtain ⟨uuid, ho⟩ := h.owner id hi
      exact ⟨uuid, owns_call hc hn ho⟩
    · obtain ⟨info, -, ho, -⟩ := owns_of_given? hc hg
      exact ⟨info.uuid, ho⟩
  nodup := by
    rw [given_call, List.nodup_append']
    have hg : (s.state.perform x.now x.call).1.given?.toList.Nodup := by
      cases (s.state.perform x.now x.call).1.given? <;> simp
    refine ⟨h.nodup, hg, ?_⟩
    intro id hi hg
    obtain ⟨uuid, ho⟩ := h.owner id hi
    obtain ⟨-, -, -, hno⟩ := owns_of_given? hc (Option.mem_toList.1 hg)
    exact hno uuid ho

/--
No job is handed out twice. A job that has an agent keeps it, and the agents of jobs are those to
whom `assignNext` gave them.
-/
theorem handed_out_at_most_once (steps : List (Step Call))
    (few : (made (session steps).log).length < 2 ^ 64 - 1) :
    (given (session steps).log).Nodup ∧
    (∀ earlier later, steps = earlier ++ later → ∀ id j uuid,
      (session earlier).state.get? id = some j → j.agent = some uuid →
        ∃ j', (session steps).state.get? id = some j' ∧ j'.agent = some uuid) ∧
    ∀ uuid id, (∃ j, (session steps).state.get? id = some j ∧ j.agent = some uuid) ↔
      ∃ e ∈ (session steps).log, Gives e uuid id := by
  have dealt : Dealt (session steps) :=
    session_induction dealt_start (fun _ _ hc hn h => h.call hc hn) steps few
  refine ⟨dealt.nodup, ?_, dealt.owned⟩
  rintro earlier later rfl id j uuid stored own
  rw [session_append] at few ⊢
  obtain ⟨j', stored', hf⟩ := (sound_session earlier).follows few stored
  exact ⟨j', stored', hf.agent own⟩

theorem handed_out_at_most_once_relay :
    (made (session relay).log).length < 2 ^ 64 - 1 ∧ (given (session relay).log) = [1, 3] ∧
      (given (session relay).log).Nodup :=
  ⟨by decide, by decide, (handed_out_at_most_once relay (by decide)).1⟩

end BuildDispatch.Board
