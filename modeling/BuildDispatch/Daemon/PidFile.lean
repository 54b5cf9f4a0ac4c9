/-!
The pid file of a dispatcher. A path leads to a file; a lock is on the file and not on the path, so
that a file that is removed and made anew is another one, with a lock of its own.
-/
namespace BuildDispatch

/-- What is at the path of a pid file. Files are told apart by number. -/
structure PidSite where
  linked : Option Nat
  content : Nat → String
  /-- The files on which somebody holds a lock. -/
  locked : Nat → Bool
  fresh : Nat

namespace PidSite

def empty : PidSite := ⟨none, fun _ => "", fun _ => false, 0⟩

def read? (s : PidSite) : Option String := s.linked.map s.content

def write (s : PidSite) (file : Nat) (text : String) : PidSite :=
  { s with content := fun other => if other = file then text else s.content other }

/-- Opens the file at the path, or makes a new one that is empty. -/
def openFile (s : PidSite) : Nat × PidSite :=
  match s.linked with
  | some file => (file, s)
  | none => (s.fresh, { s.write s.fresh "" with linked := some s.fresh, fresh := s.fresh + 1 })

def setLocked (s : PidSite) (file : Nat) (b : Bool) : PidSite :=
  { s with locked := fun other => if other = file then b else s.locked other }

/-- Locks a file, unless somebody else holds the lock. -/
def lock? (s : PidSite) (file : Nat) : Option PidSite :=
  if s.locked file then none else some (s.setLocked file true)

def unlock (s : PidSite) (file : Nat) : PidSite := s.setLocked file false

/-- Removes the file from the path, whichever it is now. -/
def remove (s : PidSite) : PidSite := { s with linked := none }

end PidSite

end BuildDispatch
