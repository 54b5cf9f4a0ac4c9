import BuildDispatch.FileLock.Trouble
import BuildDispatch.Proofs.FileLock.Scene

/-!
One lock among files that anybody may have made. It leaves a fresh file of somebody else as it is,
whatever it does and whatever goes wrong, an owner that has found such a file does not own the lock
again before the file is gone or stale, and a lock removes no file but its own
(`FileLock.foreign_file_untouched`).
-/
namespace BuildDispatch.FileLock

variable {l : FileLock} {t : Trouble} {now : Nat} {f : LockFile} {file : Option LockFile}
  {x : Operation}

/-! One operation. -/

theorem tryAcquireAmid_of_owner (owner : l.isOwner = true) :
    l.tryAcquireAmid t now file = (true, l, file) := if_pos owner

theorem tryAcquireAmid_cases (t : Trouble) (now : Nat) (file : Option LockFile)
    (idle : l.isOwner = false) : ∃ left,
      l.tryAcquireAmid t now file = (false, { l with lost := none }, left) ∨
      l.tryAcquireAmid t now file = (true, { l with lost := some false }, left) := by
  unfold tryAcquireAmid
  rw [if_neg (by simp [idle])]
  rcases l.claim t now file with ⟨_ | _, left⟩
  · exact ⟨left, .inl rfl⟩
  · cases t.heartless with
    | true => exact ⟨_, .inl rfl⟩
    | false => exact ⟨left, .inr rfl⟩

/-- Beside a fresh file no other one is made. -/
theorem tryAcquireAmid_fresh (idle : l.isOwner = false)
    (fresh : f.isStale l.staleAfter now = false) :
    l.tryAcquireAmid t now (some f) = (false, { l with lost := none }, some f) := by
  simp [tryAcquireAmid, idle, claim, fresh]

theorem tickAmid_of_idle (idle : l.isOwner = false) : l.tickAmid t now file = (l, file) := by
  simp [tickAmid, idle]

theorem tickAmid_cases (l : FileLock) (t : Trouble) (now : Nat) (file : Option LockFile) :
    ∃ left, l.tickAmid t now file = (l, left) ∨
      l.tickAmid t now file = ({ l with lost := some true }, left) ∧ l.isOwner = true := by
  unfold tickAmid
  split_ifs with still
  · exact ⟨file, .inl rfl⟩
  · exact ⟨file, .inl rfl⟩
  · exact ⟨_, .inl rfl⟩
  · exact ⟨file, .inr ⟨rfl, by simp_all⟩⟩
  · exact ⟨file, .inl rfl⟩

/-- An operation changes nothing of a lock but what it knows of its acquisition. -/
theorem perform_lock (l : FileLock) (t : Trouble) (now : Nat) (file : Option LockFile)
    (x : Operation) : ∃ lost, (l.perform t now file x).2.1 = { l with lost } := by
  cases x with
  | tryAcquire =>
    cases owner : l.isOwner with
    | true => exact ⟨l.lost, by rw [perform, tryAcquireAmid_of_owner owner]⟩
    | false =>
      obtain ⟨left, failed | done⟩ := tryAcquireAmid_cases t now file owner
      · exact ⟨none, by rw [perform, failed]⟩
      · exact ⟨some false, by rw [perform, done]⟩
  | release | drop =>
    refine ⟨none, ?_⟩
    simp only [perform, releaseAmid]
    cases lost : l.lost with
    | none => simp only [← lost]
    | some _ => rfl
  | isHeld => exact ⟨l.lost, rfl⟩
  | tick =>
    obtain ⟨left, same | ⟨lost, -⟩⟩ := l.tickAmid_cases t now file
    · exact ⟨l.lost, by rw [perform, same]⟩
    · exact ⟨some true, by rw [perform, lost]⟩

theorem isMarked_of_foreign (foreign : f.token ≠ some l.token) : l.isMarked (some f) = false := by
  simpa [isMarked] using foreign

theorem perform_file (foreign : f.token ≠ some l.token)
    (fresh : f.isStale l.staleAfter now = false) : (l.perform t now (some f) x).2.2 = some f := by
  have unmarked : l.isMarked (some f) = false := isMarked_of_foreign foreign
  cases x with
  | tryAcquire =>
    cases owner : l.isOwner with
    | true => rw [perform, tryAcquireAmid_of_owner owner]
    | false => rw [perform, tryAcquireAmid_fresh owner fresh]
  | release | drop =>
    simp only [perform, releaseAmid, unmarked]
    cases l.lost <;> rfl
  | isHeld => rfl
  | tick =>
    simp only [perform, tickAmid, unmarked, if_neg Bool.false_ne_true]
    split_ifs <;> rfl

/-! One operation after another, with whatever files there are in between. -/

/-- An operation, when it comes, what it finds, and what goes wrong then. -/
structure Turn where
  operation : Operation
  trouble : Trouble
  now : Nat
  file : Option LockFile

def turn (l : FileLock) (x : Turn) : Bool × FileLock × Option LockFile :=
  l.perform x.trouble x.now x.file x.operation

def after (l : FileLock) (turns : List Turn) : FileLock := turns.foldl (fun l x => (l.turn x).2.1) l

theorem after_cons (l : FileLock) (x : Turn) (rest : List Turn) :
    l.after (x :: rest) = (l.turn x).2.1.after rest := rfl

def answers (l : FileLock) : List Turn → List (Operation × Bool)
  | [] => []
  | x :: rest => (x.operation, (l.turn x).1) :: answers (l.turn x).2.1 rest

/-- Whether a lock is held after an operation, as its answer tells, if it was held before or not. -/
def acquiredAfter (before : Bool) : Operation × Bool → Bool
  | (.tryAcquire, answer) => answer
  | (.release, _) | (.drop, _) => false
  | (.isHeld, _) | (.tick, _) => before

/-- Whether the last attempt to acquire the lock succeeded, and it was not given up since. -/
def acquired (course : List (Operation × Bool)) : Bool := course.foldl acquiredAfter false

theorem isSome_lost_turn (l : FileLock) (x : Turn) :
    (l.turn x).2.1.lost.isSome = acquiredAfter l.lost.isSome (x.operation, (l.turn x).1) := by
  obtain ⟨operation, t, now, file⟩ := x
  unfold turn
  dsimp only
  cases operation with
  | tryAcquire =>
    cases owner : l.isOwner with
    | true =>
      rw [perform, tryAcquireAmid_of_owner owner]
      simp [acquiredAfter, lost_of_isOwner owner]
    | false =>
      obtain ⟨left, failed | done⟩ := tryAcquireAmid_cases t now file owner
      · rw [perform, failed]
        rfl
      · rw [perform, done]
        rfl
  | release | drop =>
    simp only [perform, releaseAmid, acquiredAfter]
    cases lost : l.lost <;> simp [lost]
  | isHeld => rfl
  | tick =>
    obtain ⟨left, same | ⟨lost, owner⟩⟩ := l.tickAmid_cases t now file
    · rw [perform, same]
      rfl
    · rw [perform, lost]
      simp [acquiredAfter, lost_of_isOwner owner]

theorem isSome_lost_after (l : FileLock) (turns : List Turn) :
    (l.after turns).lost.isSome = (l.answers turns).foldl acquiredAfter l.lost.isSome := by
  induction turns generalizing l with
  | nil => rfl
  | cons x rest ih =>
    rw [after_cons, ih, isSome_lost_turn]
    rfl

theorem exists_after_eq (l : FileLock) (turns : List Turn) :
    ∃ lost, l.after turns = { l with lost } := by
  induction turns generalizing l with
  | nil => exact ⟨l.lost, rfl⟩
  | cons x rest ih =>
    obtain ⟨lost, first⟩ := l.perform_lock x.trouble x.now x.file x.operation
    obtain ⟨lost', later⟩ := ih (l.turn x).2.1
    refine ⟨lost', ?_⟩
    rw [after_cons, later, turn, first]

theorem isOwner_perform (idle : l.isOwner = false) (fresh : f.isStale l.staleAfter now = false) :
    (l.perform t now (some f) x).2.1.isOwner = false := by
  cases x with
  | tryAcquire =>
    rw [perform, tryAcquireAmid_fresh idle fresh]
    rfl
  | release | drop =>
    simp only [perform, releaseAmid]
    cases lost : l.lost with
    | none => exact idle
    | some _ => rfl
  | isHeld => exact idle
  | tick =>
    rw [perform, tickAmid_of_idle idle]
    exact idle

theorem isOwner_after (turns : List Turn) (idle : l.isOwner = false)
    (fresh : ∀ x ∈ turns, ∃ f, x.file = some f ∧ f.isStale l.staleAfter x.now = false) :
    (l.after turns).isOwner = false := by
  induction turns generalizing l with
  | nil => exact idle
  | cons x rest ih =>
    obtain ⟨f, there, now⟩ := fresh x (.head _)
    obtain ⟨lost, first⟩ := l.perform_lock x.trouble x.now x.file x.operation
    have still : (l.turn x).2.1.isOwner = false := by
      rw [turn, there]
      exact isOwner_perform idle now
    rw [after_cons]
    refine ih still fun y hy => ?_
    have window : (l.turn x).2.1.staleAfter = l.staleAfter := by rw [turn, first]
    rw [window]
    exact fresh y (.tail _ hy)

/-- A beat of the heart beside a file of somebody else leaves no owner. -/
theorem isOwner_tick {other : String} (foreign : f.token = some other) (ne : other ≠ l.token) :
    (l.perform .none now (some f) .tick).2.1.isOwner = false := by
  rw [perform, tickAmid_none]
  cases owner : l.isOwner with
  | true =>
    rw [tick_of_foreign owner foreign ne]
    rfl
  | false =>
    rw [tick_of_idle owner]
    exact owner

/-- A release without trouble removes the file just if it is the own one of an acquired lock. -/
theorem release_eq_none_iff :
    (l.release (some f)).2 = none ↔ f.token = some l.token ∧ l.lost.isSome = true := by
  unfold release
  cases lost : l.lost with
  | none => simp
  | some _ =>
    cases marked : l.isMarked (some f) with
    | true => simpa [isMarked] using marked
    | false => simpa [isMarked] using marked

/--
A lock that has done anything among any files, through any trouble. A fresh file without its token
stays as it is, whatever the lock does with it and whatever goes wrong. When its heart has beaten
beside a file with another token, it is no owner and does not acquire the file again, as long as
there is a fresh file. A release takes away a file just if it has the token of the lock and the lock
was acquired, and not given up since.
-/
theorem foreign_file_untouched (token : String) (window : Nat) (past : List Turn) :
    let l := (new token window).after past
    (∀ x t now f, f.token ≠ some token → f.isStale window now = false →
      (l.perform t now (some f) x).2.2 = some f) ∧
    (∀ beat f other, f.token = some other → other ≠ token → ∀ later : List Turn,
      (∀ x ∈ later, ∃ f, x.file = some f ∧ f.isStale window x.now = false) →
      let k := l.after (⟨.tick, .none, beat, some f⟩ :: later)
      k.isOwner = false ∧ ∀ t now f, f.isStale window now = false →
        (k.perform t now (some f) .tryAcquire).1 = false) ∧
    ∀ now f, (l.perform .none now (some f) .release).2.2 = none ↔
      f.token = some token ∧ acquired ((new token window).answers past) = true := by
  intro l
  obtain ⟨lost, hl⟩ := (new token window).exists_after_eq past
  have own : l.token = token := congrArg FileLock.token hl
  have wide : l.staleAfter = window := congrArg FileLock.staleAfter hl
  refine ⟨?_, ?_, ?_⟩
  · intro x t now f foreign fresh
    rw [← own] at foreign
    rw [← wide] at fresh
    exact perform_file foreign fresh
  · intro beat f other foreign ne later fresh k
    have displaced : (l.turn ⟨.tick, .none, beat, some f⟩).2.1.isOwner = false :=
      isOwner_tick foreign (own ▸ ne)
    obtain ⟨lost₁, beaten⟩ := l.perform_lock .none beat (some f) .tick
    have window₁ : (l.turn ⟨.tick, .none, beat, some f⟩).2.1.staleAfter = window := by
      rw [turn, beaten]
      exact wide
    have idle : k.isOwner = false := isOwner_after later displaced (by rwa [window₁])
    obtain ⟨lost₂, hk⟩ := l.exists_after_eq (⟨.tick, .none, beat, some f⟩ :: later)
    have window₂ : k.staleAfter = window := (congrArg FileLock.staleAfter hk).trans wide
    refine ⟨idle, fun t now f fresh => ?_⟩
    rw [← window₂] at fresh
    rw [perform, tryAcquireAmid_fresh idle fresh]
  · intro now f
    rw [perform, releaseAmid_none, release_eq_none_iff, own, acquired]
    rw [isSome_lost_after]
    rfl

/-- An owner that was displaced gives the lock up, or first notices. -/
theorem foreign_file_untouched_displaced :
    let l := (new "a" 60).after [⟨.tryAcquire, .none, 0, none⟩]
    let other : LockFile := ⟨some "b", 90⟩
    l.isOwner = true ∧ (l.perform .none 100 (some other) .release).2.2 = some other ∧
      (l.after [⟨.tick, .none, 100, some other⟩]).isOwner = false := by
  intro l other
  have owner : l.isOwner = true := rfl
  have foreign : other.token ≠ some "a" := by decide
  have fresh : other.isStale 60 100 = false := by decide
  obtain ⟨untouched, noticed, -⟩ :=
    foreign_file_untouched "a" 60 [⟨.tryAcquire, .none, 0, none⟩]
  have still := untouched .release .none 100 other foreign fresh
  obtain ⟨displaced, -⟩ := noticed 100 other "b" rfl (by decide) [] (List.forall_mem_nil _)
  exact ⟨owner, still, displaced⟩

end BuildDispatch.FileLock
