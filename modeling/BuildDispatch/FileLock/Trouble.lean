import BuildDispatch.FileLock

/-!
Operations of a lock while its file may give trouble. Each is one step on the file, and without
trouble it is the plain operation.
-/
namespace BuildDispatch

/-- What goes wrong with the file of a lock while an operation lasts. -/
structure Trouble where
  /-- What is at the path cannot be looked at. -/
  blind : Bool
  /-- A stale file cannot be moved aside, or it is put back. -/
  stuck : Bool
  /-- A stale file is moved aside, and that is all. -/
  astray : Bool
  barred : Bool
  /-- What gets into a new file instead of the whole token. -/
  torn : Option String
  /-- No heart can be started. -/
  heartless : Bool
  fixed : Bool
  frozen : Bool
  deriving DecidableEq, Repr

def Trouble.none : Trouble where
  blind := false
  stuck := false
  astray := false
  barred := false
  torn := .none
  heartless := false
  fixed := false
  frozen := false

namespace FileLock

/-- Makes a file where there is none, and tells whether it did. One without the token is removed. -/
def create (l : FileLock) (t : Trouble) (now : Nat) : Bool × Option LockFile :=
  if t.barred then (false, none)
  else match t.torn with
    | some part => (false, if t.fixed then some ⟨some part, now⟩ else none)
    | none => (true, some (l.mark now))

/-- Makes the file of a lock, in the place of a stale one if need be. -/
def claim (l : FileLock) (t : Trouble) (now : Nat) : Option LockFile → Bool × Option LockFile
  | none => if t.blind then (false, none) else l.create t now
  | some f =>
    if t.blind || t.stuck || !f.isStale l.staleAfter now then (false, some f)
    else if t.astray then (false, none)
    else l.create t now

/-- Tries to own the lock. Without a heart the file that was made is removed. -/
def tryAcquireAmid (l : FileLock) (t : Trouble) (now : Nat) (file : Option LockFile) :
    Bool × FileLock × Option LockFile :=
  if l.isOwner then (true, l, file)
  else match l.claim t now file with
    | (false, file) => (false, { l with lost := none }, file)
    | (true, file) =>
      if t.heartless then (false, { l with lost := none }, if t.fixed then file else none)
      else (true, { l with lost := some false }, file)

def releaseAmid (l : FileLock) (t : Trouble) (file : Option LockFile) :
    FileLock × Option LockFile :=
  match l.lost with
  | none => (l, file)
  | some _ =>
    ({ l with lost := none }, if l.isMarked file && !t.blind && !t.fixed then none else file)

def tickAmid (l : FileLock) (t : Trouble) (now : Nat) (file : Option LockFile) :
    FileLock × Option LockFile :=
  if !l.isOwner || t.blind then (l, file)
  else if l.isMarked file then
    (l, if t.frozen then file else file.map fun f => { f with touched := now })
  else if file.any fun f => f.token.isSome then ({ l with lost := some true }, file)
  else (l, file)

inductive Operation where
  | tryAcquire
  | release
  | drop
  | isHeld
  | tick
  deriving DecidableEq, Repr

/-- What an operation answers, the lock after it, and the file that it leaves. -/
def perform (l : FileLock) (t : Trouble) (now : Nat) (file : Option LockFile) :
    Operation → Bool × FileLock × Option LockFile
  | .tryAcquire => l.tryAcquireAmid t now file
  | .release | .drop => (false, l.releaseAmid t file)
  | .isHeld => (!t.blind && l.isHeld now file, l, file)
  | .tick => (false, l.tickAmid t now file)

variable (l : FileLock) (now : Nat) (file : Option LockFile)

theorem tryAcquireAmid_none : l.tryAcquireAmid .none now file = l.tryAcquire now file := by
  unfold tryAcquireAmid tryAcquire
  cases l.isOwner with
  | true => rfl
  | false =>
    cases file with
    | none => rfl
    | some f =>
      cases stale : f.isStale l.staleAfter now <;>
        simp [claim, create, isFree, stale, Trouble.none]

theorem releaseAmid_none : l.releaseAmid .none file = l.release file := by
  unfold releaseAmid release
  cases l.lost with
  | none => rfl
  | some _ => simp [Trouble.none]

theorem tickAmid_none : l.tickAmid .none now file = l.tick now file := by
  simp [tickAmid, tick, Trouble.none]

/-- Without trouble, the operations are the plain ones. -/
theorem perform_none (x : Operation) : l.perform .none now file x = match x with
    | .tryAcquire => l.tryAcquire now file
    | .release | .drop => (false, l.release file)
    | .isHeld => (l.isHeld now file, l, file)
    | .tick => (false, l.tick now file) := by
  cases x with
  | tryAcquire => exact l.tryAcquireAmid_none now file
  | release | drop => exact congrArg (false, ·) (l.releaseAmid_none file)
  | isHeld => rfl
  | tick => exact congrArg (false, ·) (l.tickAmid_none now file)

end FileLock

end BuildDispatch
