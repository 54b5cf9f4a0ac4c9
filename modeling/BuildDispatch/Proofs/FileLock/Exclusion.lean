import BuildDispatch.Proofs.FileLock.Scene
import Mathlib.Data.List.Induction

/-!
Locks on one file, whose owners touch it in time. At most one of them is an owner, and the file
carries its token (`LockScene.one_owner_while_timely`).
-/
namespace BuildDispatch

namespace LockScene

/-- The lock that creates or refreshes the file in a move, if one does. -/
def toucher? (s : LockScene) : LockMove → Option Nat
  | .tryAcquire i => if !s.isOwner i && (s.move (.tryAcquire i)).1 then some i else none
  | .tick i => if (s.locks i).any fun l => l.isOwner && l.isMarked s.file then some i else none
  | _ => none

/-- Which locks created or refreshed the file in a run, and when. -/
def touches (s : LockScene) : List LockMove → List (Nat × Nat)
  | [] => []
  | m :: rest => ((s.toucher? m).map (·, s.now)).toList ++ touches (s.move m).2 rest

/-- Whenever a lock tries to acquire the file, each owner has touched it within the window. -/
def Timely (s : LockScene) (window : Nat) (moves : List LockMove) : Prop :=
  ∀ before i after, moves = before ++ .tryAcquire i :: after →
    ∀ j, (s.run before).isOwner j = true →
      ∃ t, (j, t) ∈ s.touches before ∧ (s.run before).now ≤ t + window

theorem touches_concat (s : LockScene) (moves : List LockMove) (m : LockMove) :
    s.touches (moves ++ [m]) =
      s.touches moves ++ (((s.run moves).toucher? m).map (·, (s.run moves).now)).toList := by
  induction moves generalizing s with
  | nil => exact List.append_nil _
  | cons n rest ih =>
    change _ ++ touches _ (rest ++ [m]) = _ ++ touches _ rest ++ _
    rw [ih, List.append_assoc]
    rfl

theorem Timely.init {s : LockScene} {window : Nat} {moves later : List LockMove}
    (h : s.Timely window (moves ++ later)) : s.Timely window moves := by
  intro before i after split
  refine h before i (after ++ later) ?_
  rw [split, List.append_assoc]
  rfl

/-- Locks of one window, of which at most one is an owner, and a file that is as fresh as can be. -/
structure Guarded (s : LockScene) (window : Nat) (touched : List (Nat × Nat)) : Prop where
  windows : ∀ i l, s.locks i = some l → l.staleAfter = window
  kept : ∀ i l, s.locks i = some l → l.lost ≠ some true
  marked : ∀ i l, s.locks i = some l → l.isOwner = true → l.isMarked s.file = true
  one : ∀ i j, s.isOwner i = true → s.isOwner j = true → i = j
  past : ∀ x ∈ touched, x.2 ≤ s.now
  fresh : ∀ f, s.file = some f → ∀ x ∈ touched, x.2 ≤ f.touched

namespace Guarded

variable {s : LockScene} {window : Nat} {touched : List (Nat × Nat)} (h : s.Guarded window touched)
  {i : Nat} {l : FileLock}
include h

theorem lost_of_idle (hl : s.locks i = some l) (idle : l.isOwner = false) : l.lost = none := by
  have kept := h.kept i l hl
  have unlost : l.lost ≠ some false := of_decide_eq_false idle
  cases lost : l.lost with
  | none => rfl
  | some b =>
    cases b with
    | true => exact absurd lost kept
    | false => exact absurd lost unlost

/-- A free file has no owner who touched it within the window. -/
theorem not_owner_of_free (hl : s.locks i = some l) (free : l.isFree s.now s.file = true)
    {j t : Nat} (timely : (j, t) ∈ touched ∧ s.now ≤ t + window) : s.isOwner j = false := by
  by_contra owner
  obtain ⟨k, hk, owns⟩ := (s.isOwner_iff j).1 (by simpa using owner)
  obtain ⟨f, file, -⟩ := FileLock.isMarked_iff.1 (h.marked j k hk owns)
  rcases FileLock.isFree_iff.1 free with none | ⟨g, hg, stale⟩
  · rw [file] at none
    cases none
  · have same : f = g := Option.some.inj (file.symm.trans hg)
    have recent := h.fresh f file (j, t) timely.1
    have wide := h.windows i l hl
    rw [← same, wide] at stale
    dsimp only at recent
    omega

theorem put_idle {l' : Option FileLock} (idle : ∀ k, l' = some k → k.lost = none)
    (wide : ∀ k, l' = some k → k.staleAfter = window) : (s.put i l').Guarded window touched := by
  have owner (j : Nat) (hj : (s.put i l').isOwner j = true) : j ≠ i ∧ s.isOwner j = true := by
    by_cases hji : j = i
    · obtain ⟨k, hk, owns⟩ := (isOwner_iff _ j).1 hj
      rw [hji, locks_put_self] at hk
      have lost := FileLock.lost_of_isOwner owns
      rw [idle k hk] at lost
      cases lost
    · rw [isOwner_put_of_ne s i l' hji] at hj
      exact ⟨hji, hj⟩
  constructor
  case windows =>
    intro j k hk
    rcases s.locks_put_cases i l' hk with ⟨-, new⟩ | ⟨-, old⟩
    · exact wide k new
    · exact h.windows j k old
  case kept =>
    intro j k hk
    rcases s.locks_put_cases i l' hk with ⟨-, new⟩ | ⟨-, old⟩
    · rw [idle k new]
      exact nofun
    · exact h.kept j k old
  case marked =>
    intro j k hk owns
    obtain ⟨hj, -⟩ := owner j ((isOwner_iff _ j).2 ⟨k, hk, owns⟩)
    rw [locks_put_of_ne s i l' hj] at hk
    exact h.marked j k hk owns
  case one => exact fun j k hj hk => h.one j k (owner j hj).2 (owner k hk).2
  case past => exact h.past
  case fresh => exact h.fresh

/-- The only owner takes the file away, or a lock that owns nothing does nothing. -/
theorem release (hl : s.locks i = some l) {l' : Option FileLock}
    (idle : ∀ k, l' = some k → k.lost = none) (wide : ∀ k, l' = some k → k.staleAfter = window) :
    LockScene.Guarded { s.put i l' with file := (l.release s.file).2 } window touched := by
  have put := h.put_idle (i := i) idle wide
  cases owns : l.isOwner with
  | false =>
    rw [FileLock.release_of_idle (h.lost_of_idle hl owns)]
    exact put
  | true =>
    have here : s.isOwner i = true := (s.isOwner_iff i).2 ⟨l, hl, owns⟩
    rw [FileLock.release_of_owner owns (h.marked i l hl owns)]
    refine ⟨put.windows, put.kept, ?_, put.one, put.past, ?_⟩
    · intro j k hk owner
      rcases s.locks_put_cases i l' hk with ⟨-, new⟩ | ⟨hj, old⟩
      · rw [FileLock.isOwner, idle k new] at owner
        cases owner
      · exact absurd (h.one j i ((s.isOwner_iff j).2 ⟨k, old, owner⟩) here) hj
    · intro f hf
      cases hf

theorem past_touch : ∀ x ∈ touched ++ [(i, s.now)], x.2 ≤ s.now := by
  intro x hx
  rcases List.mem_append.1 hx with before | now
  · exact h.past x before
  · exact Nat.le_of_eq (congrArg Prod.snd (List.mem_singleton.1 now))

theorem take (hl : s.locks i = some l) (free : ∀ j, s.isOwner j = false) :
    LockScene.Guarded
      { s.put i (some { l with lost := some false }) with file := some (l.mark s.now) }
      window (touched ++ [(i, s.now)]) := by
  let taken := some { l with lost := some false }
  have owner (j : Nat) (hj : (s.put i taken).isOwner j = true) : j = i := by
    by_contra hji
    rw [isOwner_put_of_ne s i taken hji, free j] at hj
    cases hj
  have past := h.past_touch (i := i)
  constructor
  case windows =>
    intro j k hk
    rcases s.locks_put_cases i _ hk with ⟨-, ⟨⟩⟩ | ⟨-, old⟩
    · exact h.windows i l hl
    · exact h.windows j k old
  case kept =>
    intro j k hk
    rcases s.locks_put_cases i _ hk with ⟨-, ⟨⟩⟩ | ⟨-, old⟩
    · simp
    · exact h.kept j k old
  case marked =>
    intro j k hk owns
    rcases s.locks_put_cases i _ hk with ⟨-, ⟨⟩⟩ | ⟨hj, -⟩
    · exact FileLock.isMarked_iff.2 ⟨_, rfl, rfl⟩
    · exact absurd (owner j ((isOwner_iff _ j).2 ⟨k, hk, owns⟩)) hj
  case one => exact fun j k hj hk => (owner j hj).trans (owner k hk).symm
  case past => exact past
  case fresh =>
    rintro f ⟨⟩
    exact past

theorem refresh :
    LockScene.Guarded { s with file := s.file.map fun f => { f with touched := s.now } } window
      (touched ++ [(i, s.now)]) := by
  have past := h.past_touch (i := i)
  refine ⟨h.windows, h.kept, ?_, h.one, past, ?_⟩
  · intro j k hk owner
    obtain ⟨f, file, token⟩ := FileLock.isMarked_iff.1 (h.marked j k hk owner)
    exact FileLock.isMarked_iff.2 ⟨{ f with touched := s.now }, by simp [file], token⟩
  · intro f hf
    obtain ⟨g, -, rfl⟩ := Option.map_eq_some_iff.1 hf
    exact past

theorem wait (time : Nat) : LockScene.Guarded { s with now := s.now + time } window touched := by
  refine ⟨h.windows, h.kept, h.marked, h.one, ?_, h.fresh⟩
  intro x hx
  exact Nat.le_add_right_of_le (h.past x hx)

/-- A step, at which every owner has touched the file in time if a lock tries to acquire it. -/
theorem move (m : LockMove) (timely : ∀ i, m = .tryAcquire i → ∀ j, s.isOwner j = true →
      ∃ t, (j, t) ∈ touched ∧ s.now ≤ t + window) :
    LockScene.Guarded (s.move m).2 window (touched ++ ((s.toucher? m).map (·, s.now)).toList) := by
  -- Most moves do not touch the file.
  have still {s' : LockScene} (h' : s'.Guarded window touched) (none : s.toucher? m = none) :
      s'.Guarded window (touched ++ ((s.toucher? m).map (·, s.now)).toList) := by
    rw [none]
    simpa using h'
  cases m with
  | tryAcquire i =>
    cases hl : s.locks i with
    | none =>
      rw [move_gone hl (.inl rfl)]
      exact still h (by simp [toucher?, move_gone hl])
    | some l =>
      have owner : s.isOwner i = l.isOwner := by simp [isOwner, hl]
      cases owns : l.isOwner with
      | true =>
        rw [move_tryAcquire hl, FileLock.tryAcquire_of_owner owns, s.put_self i _ hl]
        exact still h (by simp [toucher?, owner, owns])
      | false =>
        cases free : l.isFree s.now s.file with
        | false =>
          have put : (s.put i (some { l with lost := none })).Guarded window touched :=
            h.put_idle (by rintro _ ⟨⟩; rfl) (by rintro _ ⟨⟩; exact h.windows i l hl)
          have refused : s.toucher? (.tryAcquire i) = none := by
            simp [toucher?, move_tryAcquire hl, FileLock.tryAcquire_fst owns, free]
          rw [move_tryAcquire hl, FileLock.tryAcquire_of_held owns free]
          exact still put refused
        | true =>
          have unowned (j : Nat) : s.isOwner j = false := by
            cases owner : s.isOwner j with
            | false => rfl
            | true =>
              obtain ⟨t, recent⟩ := timely i rfl j owner
              rw [← owner]
              exact h.not_owner_of_free hl free recent
          have taken : s.toucher? (.tryAcquire i) = some i := by
            simp [toucher?, owner, owns, move_tryAcquire hl, FileLock.tryAcquire_fst owns, free]
          rw [taken, move_tryAcquire hl, FileLock.tryAcquire_of_free owns free]
          exact h.take hl unowned
  | release i =>
    refine still ?_ rfl
    cases hl : s.locks i with
    | none =>
      rw [move_gone hl (.inr (.inl rfl))]
      exact h
    | some l =>
      rw [move_release hl]
      refine h.release hl ?_ ?_
      · rintro _ ⟨⟩
        exact FileLock.lost_release
      · rintro _ ⟨⟩
        rw [FileLock.staleAfter_release]
        exact h.windows i l hl
  | drop i =>
    refine still ?_ rfl
    cases hl : s.locks i with
    | none =>
      rw [move_gone hl (.inr (.inr (.inl rfl)))]
      exact h
    | some l =>
      rw [move_drop hl]
      exact h.release hl (fun _ hk => by cases hk) (fun _ hk => by cases hk)
  | tick i =>
    cases hl : s.locks i with
    | none =>
      rw [move_gone hl (.inr (.inr (.inr rfl)))]
      exact still h (by simp [toucher?, hl])
    | some l =>
      cases owns : l.isOwner with
      | false =>
        rw [move_tick hl, FileLock.tick_of_idle owns, s.put_self i _ hl]
        exact still h (by simp [toucher?, hl, owns])
      | true =>
        have marked := h.marked i l hl owns
        have refreshed : s.toucher? (.tick i) = some i := by simp [toucher?, hl, owns, marked]
        rw [refreshed, move_tick hl, FileLock.tick_of_marked owns marked, s.put_self i _ hl]
        exact h.refresh
  | crash i => exact still (h.put_idle (fun _ hk => by cases hk) (fun _ hk => by cases hk)) rfl
  | wait time => exact still (h.wait time) rfl

theorem run (moves : List LockMove) (none : touched = []) (timely : s.Timely window moves) :
    (s.run moves).Guarded window (s.touches moves) := by
  subst none
  induction moves using List.reverseRecOn with
  | nil => exact h
  | append_singleton moves m ih =>
    rw [run_concat, touches_concat]
    refine (ih timely.init).move m ?_
    rintro i rfl
    exact timely moves i [] rfl

end Guarded

theorem guarded_opening (now window : Nat) (tokens : Nat → Option String) :
    (opening now none fun i => (tokens i).map (·, window)).Guarded window [] := by
  have lock (i : Nat) (l : FileLock)
      (hl : (opening now none fun i => (tokens i).map (·, window)).locks i = some l) :
      l.staleAfter = window ∧ l.lost = none := by
    obtain ⟨x, hx, rfl⟩ := Option.map_eq_some_iff.1 hl
    obtain ⟨token, -, rfl⟩ := Option.map_eq_some_iff.1 hx
    exact ⟨rfl, rfl⟩
  have unowned (i : Nat) (l : FileLock)
      (hl : (opening now none fun i => (tokens i).map (·, window)).locks i = some l) :
      l.isOwner = false := by
    simp [FileLock.isOwner, (lock i l hl).2]
  constructor
  case windows => exact fun i l hl => (lock i l hl).1
  case kept =>
    intro i l hl
    simp [(lock i l hl).2]
  case marked =>
    intro i l hl owns
    rw [unowned i l hl] at owns
    cases owns
  case one =>
    intro i j hi
    obtain ⟨l, hl, owns⟩ := (isOwner_iff _ i).1 hi
    rw [unowned i l hl] at owns
    cases owns
  case past => exact fun x hx => absurd hx List.not_mem_nil
  case fresh => exact fun f hf => by cases hf

/--
New locks of one window on one file, which is not there at first, move in any order and time goes
by. As long as each owner has touched the file within the window whenever a lock tries to acquire
it, there is at most one owner, and its token is in the file; a lock that is no owner acquires the
file just if there is no owner and the file is missing or was left alone for longer than the window.
-/
theorem one_owner_while_timely (now window : Nat) (tokens : Nat → Option String)
    (moves : List LockMove)
    (timely : (opening now none fun i => (tokens i).map (·, window)).Timely window moves) :
    let start := opening now none fun i => (tokens i).map (·, window)
    let s := start.run moves
    (∀ i j, s.isOwner i = true → s.isOwner j = true → i = j) ∧
    (∀ i l, s.locks i = some l → l.isOwner = true →
      ∃ f, s.file = some f ∧ f.token = some l.token) ∧
    (∀ before i after l, moves = before ++ .tryAcquire i :: after →
      let t := start.run before
      t.locks i = some l → l.isOwner = false →
      ((t.move (.tryAcquire i)).1 = true ↔ (∀ j, t.isOwner j = false) ∧
        (t.file = none ∨ ∃ f, t.file = some f ∧ f.touched + window < t.now))) := by
  intro start s
  have guarded := guarded_opening now window tokens
  have h : s.Guarded window (start.touches moves) := guarded.run moves rfl timely
  refine ⟨h.one, fun i l hl owns => FileLock.isMarked_iff.1 (h.marked i l hl owns), ?_⟩
  intro before i after l split t hl idle
  have earlier : start.Timely window before := (split ▸ timely).init
  have g : t.Guarded window (start.touches before) := guarded.run before rfl earlier
  rw [move_tryAcquire hl, FileLock.tryAcquire_fst idle]
  have free : l.isFree t.now t.file = true ↔
      t.file = none ∨ ∃ f, t.file = some f ∧ f.touched + window < t.now := by
    rw [FileLock.isFree_iff, g.windows i l hl]
  constructor
  · intro hf
    refine ⟨fun j => ?_, free.1 hf⟩
    cases owner : t.isOwner j with
    | false => rfl
    | true =>
      obtain ⟨time, recent⟩ := timely before i after split j owner
      rw [← owner]
      exact g.not_owner_of_free hl hf recent
  · exact fun hf => free.2 hf.2

/-- An owner that beats its heart is not displaced; after a crash its file is taken over. -/
theorem one_owner_while_timely_crash :
    let start := opening 0 none fun i => (["a", "b"][i]?).map (·, 10)
    let moves : List LockMove := [.tryAcquire 0, .wait 8, .tick 0, .wait 8, .tryAcquire 1, .crash 0,
      .wait 3, .tryAcquire 1]
    start.Timely 10 moves ∧ (start.run moves).isOwner 1 = true ∧
      ∀ j, (start.run moves).isOwner j = true → j = 1 := by
  intro start moves
  have timely : start.Timely 10 moves := by
    intro before i after split
    have short : before.length < 8 := by
      have lengths := congrArg List.length split
      simp [moves] at lengths
      omega
    have taken : before = moves.take before.length := by simp [split]
    have here : moves[before.length]? = some (.tryAcquire i) := by simp [split]
    generalize before.length = n at short taken here
    subst taken
    intro j owner
    obtain ⟨l, hl, owns⟩ := (isOwner_iff _ j).1 owner
    -- Of the three times at which a lock tries, there is an owner at the second one only.
    match n, short, j with
    | 0, _, 0 | 0, _, 1 | 4, _, 1 | 7, _, 1 => cases hl; cases owns
    | 0, _, n + 2 | 4, _, n + 2 | 7, _, 0 | 7, _, n + 2 => cases hl
    | 4, _, 0 => exact ⟨8, by decide, by decide⟩
    | 1, _, _ | 2, _, _ | 3, _, _ | 5, _, _ | 6, _, _ => cases here
  obtain ⟨one, -⟩ := one_owner_while_timely 0 10 (fun i => ["a", "b"][i]?) moves timely
  exact ⟨timely, by decide, fun j owner => one j 1 owner (by decide)⟩

end LockScene

end BuildDispatch
