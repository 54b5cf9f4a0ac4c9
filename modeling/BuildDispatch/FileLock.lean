/-!
Locks that are files. A file that was touched lately means that the lock is held; one left alone
for longer than a window belongs to a dead owner and may be taken over. Each operation is one step
on the file. Times count in any one unit.
-/
namespace BuildDispatch

structure LockFile where
  /-- The token of the owner; nothing, if the file holds no text. -/
  token : Option String
  touched : Nat
  deriving DecidableEq, Repr

/-- Whether a file was left alone for longer than a window. One touched in the future was not. -/
def LockFile.isStale (f : LockFile) (window now : Nat) : Bool := window < now - f.touched

/-- One that wants to hold the lock, or does. -/
structure FileLock where
  token : String
  /-- The window in which a file counts as fresh. -/
  staleAfter : Nat
  /-- After an acquisition, whether the file turned out to belong to somebody else. -/
  lost : Option Bool
  deriving DecidableEq, Repr

namespace FileLock

def new (token : String) (staleAfter : Nat) : FileLock := ⟨token, staleAfter, none⟩

def isOwner (l : FileLock) : Bool := l.lost = some false

def isHeld (l : FileLock) (now : Nat) (file : Option LockFile) : Bool :=
  file.any fun f => !f.isStale l.staleAfter now

/-- Whether the lock can be taken: there is no file, or a stale one. -/
def isFree (l : FileLock) (now : Nat) (file : Option LockFile) : Bool :=
  file.all fun f => f.isStale l.staleAfter now

/-- The file that it leaves when it takes the lock. -/
def mark (l : FileLock) (now : Nat) : LockFile := ⟨some l.token, now⟩

/-- Tries to own the lock. An owner that has lost it starts anew. -/
def tryAcquire (l : FileLock) (now : Nat) (file : Option LockFile) :
    Bool × FileLock × Option LockFile :=
  if l.isOwner then (true, l, file)
  else if l.isFree now file then (true, { l with lost := some false }, some (l.mark now))
  else (false, { l with lost := none }, file)

def isMarked (l : FileLock) (file : Option LockFile) : Bool :=
  file.any fun f => f.token = some l.token

/-- Gives the lock up. The file goes only if it carries the own token. -/
def release (l : FileLock) (file : Option LockFile) : FileLock × Option LockFile :=
  match l.lost with
  | none => (l, file)
  | some _ => ({ l with lost := none }, if l.isMarked file then none else file)

/-- A beat of an owner's heart: touches the own file, and notices that of somebody else. -/
def tick (l : FileLock) (now : Nat) (file : Option LockFile) : FileLock × Option LockFile :=
  if !l.isOwner then (l, file)
  else if l.isMarked file then (l, file.map fun f => { f with touched := now })
  else if file.any fun f => f.token.isSome then ({ l with lost := some true }, file)
  else (l, file)

end FileLock

end BuildDispatch
