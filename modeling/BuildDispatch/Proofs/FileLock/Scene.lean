import BuildDispatch.FileLock.Scene
import Mathlib.Data.List.Basic

/-! Moves of locks on one file: what each does to its lock and to the file, and runs of moves. -/
namespace BuildDispatch

namespace FileLock

variable {l : FileLock} {now : Nat} {file : Option LockFile}

theorem lost_of_isOwner (h : l.isOwner = true) : l.lost = some false := of_decide_eq_true h

theorem tryAcquire_of_owner (h : l.isOwner = true) : l.tryAcquire now file = (true, l, file) :=
  if_pos h

theorem tryAcquire_of_free (h : l.isOwner = false) (free : l.isFree now file = true) :
    l.tryAcquire now file = (true, { l with lost := some false }, some (l.mark now)) := by
  unfold tryAcquire
  rw [if_neg (by simp [h]), if_pos free]

theorem tryAcquire_of_held (h : l.isOwner = false) (held : l.isFree now file = false) :
    l.tryAcquire now file = (false, { l with lost := none }, file) := by
  unfold tryAcquire
  rw [if_neg (by simp [h]), if_neg (by simp [held])]

/-- One that does not own the lock acquires it if the lock is free. -/
theorem tryAcquire_fst (h : l.isOwner = false) :
    (l.tryAcquire now file).1 = l.isFree now file := by
  cases free : l.isFree now file with
  | true => rw [tryAcquire_of_free h free]
  | false => rw [tryAcquire_of_held h free]

theorem isFree_iff : l.isFree now file = true ↔
    file = none ∨ ∃ f, file = some f ∧ f.touched + l.staleAfter < now := by
  cases file with
  | none => simp [isFree]
  | some f =>
    simp only [isFree, LockFile.isStale, Option.all_some, decide_eq_true_eq, reduceCtorEq,
      Option.some.injEq, exists_eq_left', false_or]
    omega

theorem release_of_owner (h : l.isOwner = true) (marked : l.isMarked file = true) :
    l.release file = ({ l with lost := none }, none) := by
  unfold release
  rw [lost_of_isOwner h]
  dsimp only
  rw [if_pos marked]

theorem release_of_idle (h : l.lost = none) : l.release file = (l, file) := by
  unfold release
  rw [h]

theorem lost_release : (l.release file).1.lost = none := by
  unfold release
  cases h : l.lost <;> simp [h]

theorem staleAfter_release : (l.release file).1.staleAfter = l.staleAfter := by
  unfold release
  cases l.lost <;> rfl

theorem token_release : (l.release file).1.token = l.token := by
  unfold release
  cases l.lost <;> rfl

theorem tick_of_idle (h : l.isOwner = false) : l.tick now file = (l, file) := by
  unfold tick
  rw [h]
  rfl

theorem tick_of_marked (h : l.isOwner = true) (marked : l.isMarked file = true) :
    l.tick now file = (l, file.map fun f => { f with touched := now }) := by
  unfold tick
  rw [h, marked]
  rfl

theorem tick_of_foreign (h : l.isOwner = true) {f : LockFile} {token : String}
    (foreign : f.token = some token) (ne : token ≠ l.token) :
    l.tick now (some f) = ({ l with lost := some true }, some f) := by
  unfold tick isMarked
  simp [h, foreign, ne]

theorem isMarked_iff : l.isMarked file = true ↔ ∃ f, file = some f ∧ f.token = some l.token := by
  simp only [isMarked, Option.any_eq_true, decide_eq_true_eq]

end FileLock

namespace LockScene

variable (s : LockScene) (i : Nat) (l : Option FileLock) (m : LockMove)
  (moves later : List LockMove)

@[simp] theorem locks_put_self : (s.put i l).locks i = l := if_pos rfl

theorem locks_put_of_ne {j : Nat} (h : j ≠ i) : (s.put i l).locks j = s.locks j := if_neg h

theorem isOwner_put_of_ne {j : Nat} (h : j ≠ i) : (s.put i l).isOwner j = s.isOwner j := by
  unfold isOwner
  rw [locks_put_of_ne s i l h]

theorem locks_put_cases {j : Nat} {k : FileLock} (h : (s.put i l).locks j = some k) :
    j = i ∧ l = some k ∨ j ≠ i ∧ s.locks j = some k := by
  by_cases hj : j = i
  · rw [hj, locks_put_self] at h
    exact .inl ⟨hj, h⟩
  · rw [locks_put_of_ne s i l hj] at h
    exact .inr ⟨hj, h⟩

theorem put_self (h : s.locks i = l) : s.put i l = s := by
  have locks : (s.put i l).locks = s.locks := by
    funext j
    by_cases hj : j = i
    · rw [hj, locks_put_self, h]
    · rw [locks_put_of_ne s i l hj]
  change LockScene.mk s.now s.file (s.put i l).locks = s
  rw [locks]

variable {s i m}

theorem move_tryAcquire {l : FileLock} (h : s.locks i = some l) :
    s.move (.tryAcquire i) = ((l.tryAcquire s.now s.file).1,
      { s.put i (some (l.tryAcquire s.now s.file).2.1) with
        file := (l.tryAcquire s.now s.file).2.2 }) := by
  simp only [move, h]

theorem move_release {l : FileLock} (h : s.locks i = some l) :
    s.move (.release i) = (false,
      { s.put i (some (l.release s.file).1) with file := (l.release s.file).2 }) := by
  simp only [move, h]

theorem move_drop {l : FileLock} (h : s.locks i = some l) :
    s.move (.drop i) = (false, { s.put i none with file := (l.release s.file).2 }) := by
  simp only [move, h]

theorem move_tick {l : FileLock} (h : s.locks i = some l) :
    s.move (.tick i) = (false, { s.put i (some (l.tick s.now s.file).1) with
      file := (l.tick s.now s.file).2 }) := by
  simp only [move, h]

theorem move_gone (h : s.locks i = none)
    (own : m = .tryAcquire i ∨ m = .release i ∨ m = .drop i ∨ m = .tick i) :
    s.move m = (false, s) := by
  rcases own with rfl | rfl | rfl | rfl <;> simp only [move, h]

variable (s i m)

theorem isOwner_iff : s.isOwner i = true ↔ ∃ l, s.locks i = some l ∧ l.isOwner = true :=
  Option.any_eq_true _ _

@[simp] theorem run_nil : s.run [] = s := rfl

theorem run_append : s.run (moves ++ later) = (s.run moves).run later := List.foldl_append

theorem run_concat : s.run (moves ++ [m]) = ((s.run moves).move m).2 := by
  rw [run_append]
  rfl

/-- What every move keeps, a run keeps. -/
theorem run_keeps {P : LockScene → Prop} (keeps : ∀ s m, P s → P (s.move m).2) {s : LockScene}
    (h : P s) (moves : List LockMove) : P (s.run moves) := by
  induction moves generalizing s with
  | nil => exact h
  | cons m rest ih => exact ih (keeps s m h)

/-- New locks with these tokens and windows, none of which has tried to acquire the file yet. -/
def opening (now : Nat) (file : Option LockFile) (made : Nat → Option (String × Nat)) :
    LockScene :=
  ⟨now, file, fun i => (made i).map fun x => FileLock.new x.1 x.2⟩

end LockScene

end BuildDispatch
