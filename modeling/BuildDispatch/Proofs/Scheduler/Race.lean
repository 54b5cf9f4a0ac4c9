import BuildDispatch.Proofs.Scheduler.Advance

/-!
Triggers that race. Of one pipeline at most one is in flight (`Race.exclusive_session`), so that the
counters of the pipelines run on without a gap (`Race.counted_session`).
-/
namespace BuildDispatch

/-- Triggers by number, and how far each has come. -/
structure Race where
  calls : Nat → Trigger
  scheduler : Scheduler
  progress : Nat → Progress

namespace Race

def put (r : Race) (i : Nat) (p : Progress) (s : Scheduler) : Race :=
  { r with scheduler := s, progress := Function.update r.progress i p }

/-- One trigger goes one step, and its cause is saved if it is time to. -/
def proceed (r : Race) (now : Timestamp) (i : Nat) : Option BuildCause × Race :=
  let (p, s) := r.scheduler.advance (r.calls i) now (r.progress i)
  ((r.progress i).saving?, r.put i p s)

instance : Responder Race Nat (Option BuildCause) := ⟨proceed⟩

def session (config : Config) (calls : Nat → Trigger) (steps : List (Step Nat)) : Session Race :=
  (Session.start ⟨calls, .new config, fun _ => .asked⟩).run steps

theorem session_concat (config : Config) (calls : Nat → Trigger) (steps : List (Step Nat))
    (x : Step Nat) : session config calls (steps ++ [x]) = (session config calls steps).call x :=
  Session.run_concat _ _ _

theorem progress_put_self (r : Race) (i : Nat) (p : Progress) (s : Scheduler) :
    (r.put i p s).progress i = p := Function.update_self _ _ _

theorem progress_put_of_ne (r : Race) {i k : Nat} (h : k ≠ i) (p : Progress) (s : Scheduler) :
    (r.put i p s).progress k = r.progress k := Function.update_of_ne h _ _

theorem put_put (r : Race) (i : Nat) (p q : Progress) (s t : Scheduler) :
    (r.put i p s).put i q t = r.put i q t := by
  change Race.mk _ _ (Function.update (Function.update _ i _) i _) = Race.mk _ _ _
  rw [Function.update_idem]
  rfl

theorem isInside_put (r : Race) (i : Nat) (p : Progress) (s : Scheduler) (k : Nat) :
    ((r.put i p s).progress k).isInside = true ↔
      k = i ∧ p.isInside = true ∨ k ≠ i ∧ (r.progress k).isInside = true := by
  by_cases hk : k = i
  · rw [hk, progress_put_self]
    simp
  · rw [progress_put_of_ne r hk]
    simp [hk]

/-- The pipelines in flight are those of the triggers inside, of which each has its own. -/
structure Exclusive (r : Race) : Prop where
  marked : ∀ q, r.scheduler.inFlight.contains q = true ↔
    ∃ i, (r.progress i).isInside = true ∧ (r.calls i).pipeline = q
  one : ∀ i k, (r.progress i).isInside = true → (r.progress k).isInside = true →
    (r.calls i).pipeline = (r.calls k).pipeline → i = k

namespace Exclusive

variable {r : Race} (h : r.Exclusive) {i : Nat} {p : Progress} {s : Scheduler}
include h

theorem stay (same : p.isInside = (r.progress i).isInside)
    (kept : s.inFlight = r.scheduler.inFlight) : (r.put i p s).Exclusive := by
  have inside (k : Nat) : ((r.put i p s).progress k).isInside = true ↔
      (r.progress k).isInside = true := by
    rw [isInside_put, same]
    by_cases hk : k = i
    · simp [hk]
    · simp [hk]
  constructor
  · intro q
    change s.inFlight.contains q = true ↔ _
    rw [kept, h.marked]
    simp only [inside]
    rfl
  · intro j k hj hk
    exact h.one j k ((inside j).1 hj) ((inside k).1 hk)

theorem enter (entered : p.isInside = true)
    (free : r.scheduler.inFlight.contains (r.calls i).pipeline = false)
    (marks : s.inFlight = r.scheduler.inFlight.insert (r.calls i).pipeline ()) :
    (r.put i p s).Exclusive := by
  have apart (k : Nat) (hk : (r.progress k).isInside = true) :
      (r.calls k).pipeline ≠ (r.calls i).pipeline := by
    intro same
    have marked := (h.marked (r.calls i).pipeline).2 ⟨k, hk, same⟩
    rw [free] at marked
    cases marked
  constructor
  · intro q
    change s.inFlight.contains q = true ↔ ∃ k, _ ∧ (r.calls k).pipeline = q
    rw [marks, Table.contains_insert, Bool.or_eq_true, decide_eq_true_iff, h.marked]
    simp only [isInside_put]
    constructor
    · rintro (rfl | ⟨k, hk, hq⟩)
      · exact ⟨i, .inl ⟨rfl, entered⟩, rfl⟩
      · refine ⟨k, .inr ⟨?_, hk⟩, hq⟩
        rintro rfl
        exact apart k hk rfl
    · rintro ⟨k, ⟨rfl, -⟩ | ⟨-, hk⟩, hq⟩
      · exact .inl hq.symm
      · exact .inr ⟨k, hk, hq⟩
  · intro j k hj hk same
    rcases (isInside_put r i p s j).1 hj with ⟨hji, -⟩ | ⟨-, was⟩
    · rcases (isInside_put r i p s k).1 hk with ⟨hki, -⟩ | ⟨-, wask⟩
      · rw [hji, hki]
      · exact absurd (hji ▸ same.symm) (apart k wask)
    · rcases (isInside_put r i p s k).1 hk with ⟨hki, -⟩ | ⟨-, wask⟩
      · exact absurd (hki ▸ same) (apart j was)
      · exact h.one j k was wask same

theorem leave (was : (r.progress i).isInside = true) (left : p.isInside = false)
    (unmarks : s.inFlight = r.scheduler.inFlight.erase (r.calls i).pipeline) :
    (r.put i p s).Exclusive := by
  have inside (k : Nat) : ((r.put i p s).progress k).isInside = true ↔
      k ≠ i ∧ (r.progress k).isInside = true := by
    rw [isInside_put, left]
    simp
  constructor
  · intro q
    change s.inFlight.contains q = true ↔ ∃ k, _ ∧ (r.calls k).pipeline = q
    rw [unmarks, Table.contains_erase, Bool.and_eq_true, h.marked]
    simp only [inside]
    constructor
    · rintro ⟨hq, k, hk, rfl⟩
      refine ⟨k, ⟨?_, hk⟩, rfl⟩
      rintro rfl
      simp at hq
    · rintro ⟨k, ⟨hne, hk⟩, rfl⟩
      refine ⟨?_, k, hk, rfl⟩
      -- No other trigger inside has the pipeline of the one that leaves.
      have hq : (r.calls k).pipeline ≠ (r.calls i).pipeline :=
        fun same => hne (h.one k i hk was same)
      simpa using hq
  · intro j k hj hk
    exact h.one j k ((inside j).1 hj).2 ((inside k).1 hk).2

theorem proceed (now : Timestamp) (i : Nat) : (r.proceed now i).2.Exclusive := by
  have e := r.scheduler.advance_spec (r.calls i) now (r.progress i)
  change (r.put i _ _).Exclusive
  rcases e.inFlight_cases with ⟨same, kept⟩ | ⟨-, entered, free, marks⟩ | ⟨was, left, unmarks⟩
  · exact h.stay same kept
  · exact h.enter entered free marks
  · exact h.leave was left unmarks

end Exclusive

theorem exclusive_session (config : Config) (calls : Nat → Trigger) (steps : List (Step Nat)) :
    (session config calls steps).state.Exclusive := by
  refine Session.run_keeps (P := fun s : Session Race => s.state.Exclusive)
    (fun s x h => h.proceed x.now x.call) ⟨?_, ?_⟩ steps
  · intro q
    constructor
    · intro h
      cases h
    · rintro ⟨_, h, -⟩
      cases h
  · intro i k h
    cases h

def labelOf? (pipeline : String) (e : Entry Nat (Option BuildCause)) : Option String :=
  e.answer.bind fun c => if c.pipeline = pipeline then some c.label else none

def labels (pipeline : String) (log : List (Entry Nat (Option BuildCause))) : List String :=
  log.filterMap (labelOf? pipeline)

theorem labels_call (pipeline : String) (s : Session Race) (x : Step Nat) :
    labels pipeline (s.call x).log = labels pipeline s.log ++
      (labelOf? pipeline ⟨x, (s.state.progress x.call).saving?⟩).toList :=
  s.filterMap_log_call x (labelOf? pipeline)

/-- The labels of the runs of a pipeline count from one, and its counter is the last of them. -/
structure Counted (s : Session Race) : Prop where
  about : ∀ i, (s.state.progress i).About (s.state.calls i).pipeline
  next : ∀ i c, (s.state.progress i).cause? = some c →
    c.counter = s.state.scheduler.board.repository.counter (s.state.calls i).pipeline + 1
  counter : ∀ q, (labels q s.log).length < 2 ^ 64 →
    (s.state.scheduler.board.repository.counter q).toNat = (labels q s.log).length
  numbered : ∀ q, (labels q s.log).length < 2 ^ 64 →
    labels q s.log = (List.range (labels q s.log).length).map fun n => Text.decimal (n + 1)

namespace Counted

variable {s : Session Race} (h : Counted s) {i : Nat} (now : Timestamp)
include h

theorem about_call (x : Step Nat) (k : Nat) :
    ((s.call x).state.progress k).About ((s.call x).state.calls k).pipeline := by
  obtain ⟨i, now⟩ := x
  have e := s.state.scheduler.advance_spec (s.state.calls i) now (s.state.progress i)
  change ((s.state.put i _ _).progress k).About (s.state.calls k).pipeline
  by_cases hk : k = i
  · rw [hk, progress_put_self]
    exact e.about (h.about i)
  · rw [progress_put_of_ne _ hk]
    exact h.about k

theorem call_of_unsaved (unsaved : (s.state.progress i).saving? = none) :
    Counted (s.call ⟨i, now⟩) := by
  have e := s.state.scheduler.advance_spec (s.state.calls i) now (s.state.progress i)
  have counter (q : String) : (s.call ⟨i, now⟩).state.scheduler.board.repository.counter q =
      s.state.scheduler.board.repository.counter q := e.counter_eq unsaved q
  have same (q : String) : labels q (s.call ⟨i, now⟩).log = labels q s.log := by
    rw [labels_call, unsaved]
    exact List.append_nil _
  constructor
  case about => exact h.about_call ⟨i, now⟩
  case next =>
    intro k c hc
    rw [counter]
    by_cases hk : k = i
    · subst hk
      change ((s.state.put k _ _).progress k).cause? = some c at hc
      rw [progress_put_self] at hc
      exact e.counts (h.about k) (h.next k) c hc
    · change ((s.state.put i _ _).progress k).cause? = some c at hc
      rw [progress_put_of_ne _ hk] at hc
      exact h.next k c hc
  case counter =>
    intro q few
    rw [same] at few ⊢
    rw [counter]
    exact h.counter q few
  case numbered =>
    intro q few
    rw [same] at few ⊢
    exact h.numbered q few

theorem call_of_saved (exclusive : s.state.Exclusive) {c : BuildCause} {stage : Stage}
    (ready : s.state.progress i = .making c stage []) : Counted (s.call ⟨i, now⟩) := by
  let r := s.state.scheduler.board.repository
  have state : (s.call ⟨i, now⟩).state =
      s.state.put i (.concluding c.outcome) (s.state.scheduler.saveCause c) := by
    change s.state.put i (s.state.scheduler.advance _ now (s.state.progress i)).1
      (s.state.scheduler.advance _ now (s.state.progress i)).2 = _
    rw [ready]
    rfl
  have named : c.pipeline = (s.state.calls i).pipeline := by
    have about := h.about i
    rw [ready] at about
    exact about
  have next : c.counter = r.counter c.pipeline + 1 := by
    rw [named]
    exact h.next i c (by rw [ready]; rfl)
  have counter (q : String) : (s.call ⟨i, now⟩).state.scheduler.board.repository.counter q =
      if q = c.pipeline ∧ r.counter q ≤ c.counter then c.counter else r.counter q := by
    rw [state]
    exact r.counter_saveCause c q
  have label (q : String) : labels q (s.call ⟨i, now⟩).log =
      labels q s.log ++ if c.pipeline = q then [c.label] else [] := by
    rw [labels_call, ready]
    change _ ++ Option.toList (if c.pipeline = q then some c.label else none) = _
    split_ifs <;> rfl
  -- The next number does not run over as long as there are few runs.
  have newest (few : (labels c.pipeline s.log).length + 1 < 2 ^ 64) :
      c.counter.toNat = (labels c.pipeline s.log).length + 1 ∧ r.counter c.pipeline ≤ c.counter := by
    have before : (r.counter c.pipeline).toNat = (labels c.pipeline s.log).length :=
      h.counter c.pipeline (by omega)
    have grown : c.counter.toNat = (r.counter c.pipeline).toNat + 1 := by
      rw [next]
      exact toNat_add_one (by omega)
    refine ⟨by omega, ?_⟩
    rw [UInt64.le_iff_toNat_le]
    omega
  constructor
  case about => exact h.about_call ⟨i, now⟩
  case next =>
    intro k c' hc
    rw [state] at hc
    by_cases hk : k = i
    · rw [hk, progress_put_self] at hc
      cases hc
    · rw [progress_put_of_ne _ hk] at hc
      have inside : (s.state.progress k).isInside = true := by
        cases hp : s.state.progress k with
        | making => rfl
        | _ => rw [hp] at hc; cases hc
      have other : (s.state.calls k).pipeline ≠ c.pipeline := by
        intro same
        exact hk (exclusive.one k i inside (by rw [ready]; rfl) (same.trans named))
      rw [counter, if_neg fun hq => other hq.1]
      exact h.next k c' hc
  case counter =>
    intro q few
    rw [label] at few ⊢
    rw [counter]
    by_cases hq : c.pipeline = q
    · subst hq
      rw [if_pos rfl, List.length_append] at few ⊢
      obtain ⟨value, le⟩ := newest few
      rw [if_pos ⟨rfl, le⟩]
      exact value
    · rw [if_neg hq, List.append_nil] at few ⊢
      rw [if_neg fun hc => hq hc.1.symm]
      exact h.counter q few
  case numbered =>
    intro q few
    rw [label] at few ⊢
    by_cases hq : c.pipeline = q
    · subst hq
      rw [if_pos rfl, List.length_append] at few ⊢
      have before := h.numbered c.pipeline (by omega)
      rw [List.length_singleton, List.range_succ, List.map_append, ← before]
      unfold BuildCause.label
      rw [(newest few).1]
      rfl
    · rw [if_neg hq, List.append_nil] at few ⊢
      exact h.numbered q few

theorem call (exclusive : s.state.Exclusive) (x : Step Nat) : Counted (s.call x) := by
  obtain ⟨i, now⟩ := x
  cases saved : (s.state.progress i).saving? with
  | none => exact h.call_of_unsaved now saved
  | some c =>
    obtain ⟨stage, ready⟩ := Progress.saving?_eq_some.1 saved
    exact h.call_of_saved now exclusive ready

end Counted

theorem counted_session (config : Config) (calls : Nat → Trigger) (steps : List (Step Nat)) :
    Counted (session config calls steps) := by
  induction steps using List.reverseRecOn with
  | nil =>
    constructor
    case about => exact fun _ => trivial
    case next => intro i c hc; cases hc
    case counter => exact fun _ _ => rfl
    case numbered => exact fun _ _ => rfl
  | append_singleton steps x ih =>
    rw [session_concat]
    exact ih.call (exclusive_session config calls steps) x

end Race

end BuildDispatch
