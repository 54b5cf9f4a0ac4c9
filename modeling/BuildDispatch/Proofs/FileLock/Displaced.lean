import BuildDispatch.Proofs.FileLock.Scene
import Mathlib.Data.List.DropRight

/-!
Owners that stall and are displaced. A file with a foreign token tells an owner that it lost the
lock, so that beside a file at most one owner is left once each has looked at it
(`LockScene.one_owner_beside_file`). A file that is missing tells it nothing: two owners that were
displaced remain when the third that displaced them takes its file away
(`LockScene.two_owners_beside_no_file`).
-/
namespace BuildDispatch

namespace LockMove

/-- Moves that leave the file as it is, but for the time at which it was touched. -/
def isQuiet : LockMove → Bool
  | .tick _ | .crash _ | .wait _ => true
  | .tryAcquire _ | .release _ | .drop _ => false

/-- The moves since a lock last tried to acquire the file or gave it up. -/
def sinceContest (moves : List LockMove) : List LockMove := moves.rtakeWhile isQuiet

end LockMove

namespace FileLock

variable {l : FileLock} {now : Nat} {file : Option LockFile}

theorem token_tryAcquire : (l.tryAcquire now file).2.1.token = l.token := by
  unfold tryAcquire
  split_ifs <;> rfl

theorem token_tick : (l.tick now file).1.token = l.token := by
  unfold tick
  split_ifs <;> rfl

theorem isOwner_of_tick (h : (l.tick now file).1.isOwner = true) : l.isOwner = true := by
  by_contra idle
  rw [tick_of_idle (by simpa using idle)] at h
  exact idle h

theorem file_of_release {f : LockFile} (h : (l.release file).2 = some f) : file = some f := by
  unfold release at h
  cases lost : l.lost with
  | none => simpa [lost] using h
  | some b => cases marked : l.isMarked file <;> simp_all

theorem file_of_tick {f : LockFile} (h : (l.tick now file).2 = some f) :
    ∃ g, file = some g ∧ f.token = g.token := by
  unfold tick at h
  split_ifs at h
  · exact ⟨f, h, rfl⟩
  · obtain ⟨g, hg, rfl⟩ := Option.map_eq_some_iff.1 h
    exact ⟨g, hg, rfl⟩
  · exact ⟨f, h, rfl⟩
  · exact ⟨f, h, rfl⟩

theorem bind_token_tick : (l.tick now file).2.bind (·.token) = file.bind (·.token) := by
  unfold tick
  split_ifs
  · rfl
  · cases file <;> rfl
  · rfl
  · rfl

/-- An owner whose heart has beaten beside a file with a token remains only if it is its own. -/
theorem token_of_tick (h : (l.tick now file).1.isOwner = true) {token : String}
    (there : file.bind (·.token) = some token) : l.token = token := by
  obtain ⟨f, rfl, foreign⟩ := Option.bind_eq_some_iff.1 there
  by_contra ne
  rw [tick_of_foreign (isOwner_of_tick h) foreign (Ne.symm ne)] at h
  cases h

end FileLock

namespace LockScene

variable {s : LockScene} {m : LockMove} {i : Nat} {l : FileLock}

theorem locks_move (h : (s.move m).2.locks i = some l) : ∃ k, s.locks i = some k ∧
    (l = k ∨ m = .tryAcquire i ∧ l = (k.tryAcquire s.now s.file).2.1 ∨
      m = .release i ∧ l = (k.release s.file).1 ∨ m = .tick i ∧ l = (k.tick s.now s.file).1) := by
  have gone (none : s.move m = (false, s)) : s.locks i = some l := by rwa [none] at h
  have moved {j : Nat} {new : Option FileLock} {file : Option LockFile}
      (put : (s.move m).2 = { s.put j new with file }) :
      j = i ∧ new = some l ∨ s.locks i = some l := by
    rw [put] at h
    exact (s.locks_put_cases j new h).imp (.imp_left Eq.symm) And.right
  cases m with
  | tryAcquire j =>
    cases hj : s.locks j with
    | none => exact ⟨l, gone (move_gone hj (.inl rfl)), .inl rfl⟩
    | some k =>
      rcases moved (congrArg Prod.snd (move_tryAcquire hj)) with ⟨rfl, ⟨⟩⟩ | old
      · exact ⟨k, hj, .inr (.inl ⟨rfl, rfl⟩)⟩
      · exact ⟨l, old, .inl rfl⟩
  | release j =>
    cases hj : s.locks j with
    | none => exact ⟨l, gone (move_gone hj (.inr (.inl rfl))), .inl rfl⟩
    | some k =>
      rcases moved (congrArg Prod.snd (move_release hj)) with ⟨rfl, ⟨⟩⟩ | old
      · exact ⟨k, hj, .inr (.inr (.inl ⟨rfl, rfl⟩))⟩
      · exact ⟨l, old, .inl rfl⟩
  | drop j =>
    cases hj : s.locks j with
    | none => exact ⟨l, gone (move_gone hj (.inr (.inr (.inl rfl)))), .inl rfl⟩
    | some k =>
      rcases moved (congrArg Prod.snd (move_drop hj)) with ⟨-, ⟨⟩⟩ | old
      exact ⟨l, old, .inl rfl⟩
  | tick j =>
    cases hj : s.locks j with
    | none => exact ⟨l, gone (move_gone hj (.inr (.inr (.inr rfl)))), .inl rfl⟩
    | some k =>
      rcases moved (congrArg Prod.snd (move_tick hj)) with ⟨rfl, ⟨⟩⟩ | old
      · exact ⟨k, hj, .inr (.inr (.inr ⟨rfl, rfl⟩))⟩
      · exact ⟨l, old, .inl rfl⟩
  | crash j =>
    have gone : (s.move (.crash j)).2 = { s.put j none with file := s.file } := rfl
    rcases moved gone with ⟨-, ⟨⟩⟩ | old
    exact ⟨l, old, .inl rfl⟩
  | wait time => exact ⟨l, h, .inl rfl⟩

theorem token_of_move (h : (s.move m).2.locks i = some l) :
    ∃ k, s.locks i = some k ∧ k.token = l.token := by
  obtain ⟨k, hk, rfl | ⟨-, rfl⟩ | ⟨-, rfl⟩ | ⟨-, rfl⟩⟩ := locks_move h
  · exact ⟨_, hk, rfl⟩
  · exact ⟨k, hk, FileLock.token_tryAcquire.symm⟩
  · exact ⟨k, hk, FileLock.token_release.symm⟩
  · exact ⟨k, hk, FileLock.token_tick.symm⟩

/-- A lock that is an owner after a move was so before, or has just marked the file. -/
theorem isOwner_move (h : (s.move m).2.isOwner i = true) : s.isOwner i = true ∨
    m = .tryAcquire i ∧ ∃ k : FileLock, (s.move m).2.file = some (k.mark s.now) := by
  obtain ⟨l, hl, owns⟩ := (isOwner_iff _ i).1 h
  obtain ⟨k, hk, rfl | ⟨rfl, rfl⟩ | ⟨-, rfl⟩ | ⟨-, rfl⟩⟩ := locks_move hl
  · exact .inl ((s.isOwner_iff i).2 ⟨_, hk, owns⟩)
  · cases before : k.isOwner with
    | true => exact .inl ((s.isOwner_iff i).2 ⟨k, hk, before⟩)
    | false =>
      cases free : k.isFree s.now s.file with
      | true =>
        refine .inr ⟨rfl, k, ?_⟩
        rw [move_tryAcquire hk, FileLock.tryAcquire_of_free before free]
      | false =>
        rw [FileLock.tryAcquire_of_held before free] at owns
        cases owns
  · rw [FileLock.isOwner, FileLock.lost_release] at owns
    cases owns
  · exact .inl ((s.isOwner_iff i).2 ⟨k, hk, FileLock.isOwner_of_tick owns⟩)

theorem isOwner_of_quiet (quiet : m.isQuiet = true) (h : (s.move m).2.isOwner i = true) :
    s.isOwner i = true := by
  rcases isOwner_move h with before | ⟨rfl, -⟩
  · exact before
  · cases quiet

/-- A file after a move was marked just now, or holds what it held before. -/
theorem file_move {f : LockFile} (h : (s.move m).2.file = some f) :
    (∃ k : FileLock, f = k.mark s.now) ∨ ∃ g, s.file = some g ∧ f.token = g.token := by
  have gone (none : s.move m = (false, s)) : ∃ g, s.file = some g ∧ f.token = g.token := by
    rw [none] at h
    exact ⟨f, h, rfl⟩
  cases m with
  | tryAcquire j =>
    cases hj : s.locks j with
    | none => exact .inr (gone (move_gone hj (.inl rfl)))
    | some k =>
      rw [move_tryAcquire hj] at h
      unfold FileLock.tryAcquire at h
      split_ifs at h
      · exact .inr ⟨f, h, rfl⟩
      · exact .inl ⟨k, (Option.some.inj h).symm⟩
      · exact .inr ⟨f, h, rfl⟩
  | release j =>
    cases hj : s.locks j with
    | none => exact .inr (gone (move_gone hj (.inr (.inl rfl))))
    | some k =>
      rw [move_release hj] at h
      exact .inr ⟨f, FileLock.file_of_release h, rfl⟩
  | drop j =>
    cases hj : s.locks j with
    | none => exact .inr (gone (move_gone hj (.inr (.inr (.inl rfl)))))
    | some k =>
      rw [move_drop hj] at h
      exact .inr ⟨f, FileLock.file_of_release h, rfl⟩
  | tick j =>
    cases hj : s.locks j with
    | none => exact .inr (gone (move_gone hj (.inr (.inr (.inr rfl)))))
    | some k =>
      rw [move_tick hj] at h
      exact .inr (FileLock.file_of_tick h)
  | crash j => exact .inr ⟨f, h, rfl⟩
  | wait time => exact .inr ⟨f, h, rfl⟩

/-- The token in the file. -/
def token? (s : LockScene) : Option String := s.file.bind (·.token)

theorem token?_of_quiet (quiet : m.isQuiet = true) : (s.move m).2.token? = s.token? := by
  cases m with
  | tick j =>
    cases hj : s.locks j with
    | none => rw [move_gone hj (.inr (.inr (.inr rfl)))]
    | some k =>
      rw [move_tick hj]
      exact FileLock.bind_token_tick
  | crash j => rfl
  | wait time => rfl
  | tryAcquire j | release j | drop j => cases quiet

theorem run_quiet {quiet : List LockMove} (still : ∀ m ∈ quiet, m.isQuiet = true) :
    ((s.run quiet).isOwner i = true → s.isOwner i = true) ∧
      (s.run quiet).token? = s.token? := by
  induction quiet generalizing s with
  | nil => exact ⟨id, rfl⟩
  | cons m rest ih =>
    obtain ⟨first, later⟩ := List.forall_mem_cons.1 still
    obtain ⟨owner, token⟩ := ih (s := (s.move m).2) later
    exact ⟨fun h => isOwner_of_quiet first (owner h), token.trans (token?_of_quiet first)⟩

theorem token_of_run {moves : List LockMove} (h : (s.run moves).locks i = some l) :
    ∃ k, s.locks i = some k ∧ k.token = l.token := by
  induction moves generalizing s with
  | nil => exact ⟨l, h, rfl⟩
  | cons m rest ih =>
    obtain ⟨k, hk, later⟩ := ih (s := (s.move m).2) h
    obtain ⟨k', hk', first⟩ := token_of_move hk
    exact ⟨k', hk', first.trans later⟩

/-- An owner whose heart has beaten since the file was left alone finds its own token in it. -/
theorem token_of_ticked {quiet : List LockMove} (still : ∀ m ∈ quiet, m.isQuiet = true)
    (ticked : .tick i ∈ quiet) (hl : (s.run quiet).locks i = some l) (owns : l.isOwner = true)
    {token : String} (there : (s.run quiet).token? = some token) : l.token = token := by
  -- At the beat the owner looks at the file; no later move changes what either of them holds.
  obtain ⟨before, after, rfl⟩ := List.append_of_mem ticked
  have split : s.run (before ++ .tick i :: after) =
      (((s.run before).move (.tick i)).2).run after := s.run_append before _
  rw [split] at hl there
  have later : ∀ m ∈ after, m.isQuiet = true := fun m hm => still m (by simp [hm])
  obtain ⟨owner, same⟩ := run_quiet (s := ((s.run before).move (.tick i)).2) (i := i) later
  rw [same, token?_of_quiet rfl] at there
  obtain ⟨k', hk', kept⟩ := token_of_run hl
  obtain ⟨k'', hk'', owns'⟩ := (isOwner_iff _ i).1 (owner ((isOwner_iff _ i).2 ⟨l, hl, owns⟩))
  obtain rfl : k'' = k' := Option.some.inj (hk''.symm.trans hk')
  cases hk : (s.run before).locks i with
  | none =>
    rw [move_gone hk (.inr (.inr (.inr rfl))), hk] at hk'
    cases hk'
  | some k =>
    rw [move_tick hk] at hk'
    have beat : (k.tick (s.run before).now (s.run before).file).1 = k'' := by simpa using hk'
    rw [← kept, ← beat, FileLock.token_tick]
    rw [← beat] at owns'
    exact FileLock.token_of_tick owns' there

/-- Beside an owner a file is text. -/
def Lettered (s : LockScene) : Prop :=
  ∀ i, s.isOwner i = true → ∀ f, s.file = some f → ∃ token, f.token = some token

theorem Lettered.move (h : s.Lettered) (m : LockMove) : (s.move m).2.Lettered := by
  intro i owner f hf
  rcases file_move hf with ⟨k, rfl⟩ | ⟨g, hg, same⟩
  · exact ⟨k.token, rfl⟩
  · rcases isOwner_move owner with before | ⟨-, k, marked⟩
    · rw [same]
      exact h i before g hg
    · rw [marked] at hf
      cases hf
      exact ⟨k.token, rfl⟩

theorem lettered_opening (now : Nat) (file : Option LockFile)
    (made : Nat → Option (String × Nat)) : (opening now file made).Lettered := by
  intro i owner
  obtain ⟨l, hl, owns⟩ := (isOwner_iff _ i).1 owner
  obtain ⟨x, -, rfl⟩ := Option.map_eq_some_iff.1 hl
  cases owns

/-- The token of a lock is the one that it was made with. -/
theorem token_of_opening {now : Nat} {file : Option LockFile}
    {made : Nat → Option (String × Nat)} {moves : List LockMove}
    (h : ((opening now file made).run moves).locks i = some l) :
    ∃ x, made i = some x ∧ x.1 = l.token := by
  obtain ⟨k, hk, same⟩ := token_of_run h
  obtain ⟨x, hx, rfl⟩ := Option.map_eq_some_iff.1 hk
  exact ⟨x, hx, same⟩

/--
New locks with different tokens, and with any windows, move around a file in any order and stall for
any time. When the file is there and each owner's heart has beaten since a lock last tried to
acquire or gave up the file, there is at most one owner, and its token is in the file.
-/
theorem one_owner_beside_file (now : Nat) (file : Option LockFile)
    (made : Nat → Option (String × Nat))
    (distinct : ∀ i j x y, made i = some x → made j = some y → x.1 = y.1 → i = j)
    (moves : List LockMove) :
    let s := (opening now file made).run moves
    (∀ i, s.isOwner i = true → .tick i ∈ LockMove.sinceContest moves) →
    ∀ f, s.file = some f →
      (∀ i j, s.isOwner i = true → s.isOwner j = true → i = j) ∧
      ∀ i l, s.locks i = some l → l.isOwner = true → f.token = some l.token := by
  intro s ticked f there
  have contest : moves = moves.rdropWhile LockMove.isQuiet ++ LockMove.sinceContest moves :=
    List.rdropWhile_append_rtakeWhile.symm
  have still : ∀ m ∈ LockMove.sinceContest moves, m.isQuiet = true :=
    fun m hm => List.mem_rtakeWhile_imp hm
  have lettered : s.Lettered :=
    run_keeps (fun _ m h => h.move m) (lettered_opening now file made) moves
  have quiet : s = ((opening now file made).run (moves.rdropWhile LockMove.isQuiet)).run
      (LockMove.sinceContest moves) := by
    rw [← run_append, ← contest]
  have own (i : Nat) (l : FileLock) (hl : s.locks i = some l) (owns : l.isOwner = true) :
      f.token = some l.token := by
    have owner : s.isOwner i = true := (isOwner_iff s i).2 ⟨l, hl, owns⟩
    obtain ⟨token, text⟩ := lettered i owner f there
    have found : s.token? = some token := by rw [token?, there, Option.bind_some, text]
    have tick := ticked i owner
    rw [quiet] at hl found
    rw [text, token_of_ticked still tick hl owns found]
  refine ⟨fun i j hi hj => ?_, own⟩
  obtain ⟨l, hl, owns⟩ := (isOwner_iff s i).1 hi
  obtain ⟨k, hk, owns'⟩ := (isOwner_iff s j).1 hj
  obtain ⟨x, hx, first⟩ := token_of_opening hl
  obtain ⟨y, hy, second⟩ := token_of_opening hk
  have same : l.token = k.token := Option.some.inj ((own i l hl owns).symm.trans (own j k hk owns'))
  exact distinct i j x y hx hy (first.trans (same.trans second.symm))

/-- A stalled owner is displaced by another one, and its next beat tells. -/
theorem one_owner_beside_file_displaced :
    let made (i : Nat) := (["a", "b"][i]?).map (·, 10)
    let s := (opening 0 none made).run
      [.tryAcquire 0, .wait 11, .tryAcquire 1, .tick 0, .wait 5, .tick 1]
    ∀ j, s.isOwner j = true → j = 1 := by
  intro made s j owner
  have distinct : ∀ i j x y, made i = some x → made j = some y → x.1 = y.1 → i = j := by
    intro i j x y hi hj same
    match i, j with
    | 0, 0 | 1, 1 => rfl
    | 0, 1 | 1, 0 => cases hi; cases hj; exact absurd same (by decide)
    | n + 2, _ => cases hi
    | _, n + 2 => cases hj
  have ticked : ∀ i, s.isOwner i = true → .tick i ∈ LockMove.sinceContest
      [.tryAcquire 0, .wait 11, .tryAcquire 1, .tick 0, .wait 5, .tick 1] := by
    intro i owner
    match i with
    | 0 | 1 => decide
    | n + 2 => cases owner
  obtain ⟨one, -⟩ := one_owner_beside_file 0 none made distinct _ ticked ⟨some "b", 16⟩ (by decide)
  exact one j 1 owner (by decide)

/--
Two owners stall and are displaced by a third, which gives the file up. Each of them has a beat of
its heart, finds no file, and remains an owner.
-/
theorem two_owners_beside_no_file :
    let moves : List LockMove := [.tryAcquire 0, .wait 11, .tryAcquire 1, .wait 11, .tryAcquire 2,
      .release 2, .tick 0, .tick 1]
    let s := (opening 0 none fun i => (["a", "b", "c"][i]?).map (·, 10)).run moves
    (∀ i, s.isOwner i = true → .tick i ∈ LockMove.sinceContest moves) ∧
      s.isOwner 0 = true ∧ s.isOwner 1 = true ∧ s.file = none := by
  refine ⟨fun i owner => ?_, by decide, by decide, by decide⟩
  match i with
  | 0 | 1 => decide
  | 2 => revert owner; decide
  | n + 3 => cases owner

end LockScene

end BuildDispatch
