import BuildDispatch.FileLock

/-! Several locks on one file, each of which moves in its own time. -/
namespace BuildDispatch

/-- The file at a path, and those that want to hold it. -/
structure LockScene where
  now : Nat
  file : Option LockFile
  /-- The locks by number, as far as they live. -/
  locks : Nat → Option FileLock

/-- What may happen around a file that serves as a lock. -/
inductive LockMove where
  | tryAcquire (i : Nat)
  | release (i : Nat)
  | drop (i : Nat)
  | tick (i : Nat)
  /-- A lock vanishes and leaves its file behind. -/
  | crash (i : Nat)
  | wait (time : Nat)
  deriving DecidableEq, Repr

namespace LockScene

def put (s : LockScene) (i : Nat) (l : Option FileLock) : LockScene :=
  { s with locks := fun j => if j = i then l else s.locks j }

def isOwner (s : LockScene) (i : Nat) : Bool := (s.locks i).any (·.isOwner)

def isHeld (s : LockScene) (i : Nat) : Bool := (s.locks i).any (·.isHeld s.now s.file)

/-- The scene after a move, and whether it acquired a lock. A lock that is gone does not move. -/
def move (s : LockScene) : LockMove → Bool × LockScene
  | .tryAcquire i =>
    match s.locks i with
    | none => (false, s)
    | some l =>
      let (acquired, l, file) := l.tryAcquire s.now s.file
      (acquired, { s.put i (some l) with file })
  | .release i =>
    match s.locks i with
    | none => (false, s)
    | some l =>
      let (l, file) := l.release s.file
      (false, { s.put i (some l) with file })
  | .drop i =>
    match s.locks i with
    | none => (false, s)
    | some l => (false, { s.put i none with file := (l.release s.file).2 })
  | .tick i =>
    match s.locks i with
    | none => (false, s)
    | some l =>
      let (l, file) := l.tick s.now s.file
      (false, { s.put i (some l) with file })
  | .crash i => (false, s.put i none)
  | .wait time => (false, { s with now := s.now + time })

def run (s : LockScene) (moves : List LockMove) : LockScene :=
  moves.foldl (fun s m => (s.move m).2) s

end LockScene

end BuildDispatch
