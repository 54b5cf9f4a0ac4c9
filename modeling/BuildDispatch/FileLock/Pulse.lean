import BuildDispatch.FileLock.Scene

/-!
Locks whose hearts beat by themselves as time goes by, each in its own measure from the moment of
its acquisition.
-/
namespace BuildDispatch

/-- The heart of a lock. -/
structure Pulse where
  period : Nat
  since : Nat
  deriving DecidableEq, Repr

def Pulse.beats (p : Pulse) (now : Nat) : Bool :=
  p.since < now && (now - p.since) % max p.period 1 = 0

/-- Locks on one file, with the periods of their hearts and the hearts that beat, by number. -/
structure PulsingScene where
  scene : LockScene
  periods : List Nat
  hearts : List (Nat × Pulse)

namespace PulsingScene

def start (now : Nat) : PulsingScene := ⟨⟨now, none, fun _ => none⟩, [], []⟩

/-- Adds a lock with a heart of this period; its number is that of the locks before it. -/
def add (s : PulsingScene) (l : FileLock) (period : Nat) : PulsingScene :=
  { s with scene := s.scene.put s.periods.length (some l), periods := s.periods ++ [period] }

/-- A move of a lock. Its heart begins to beat when it acquires the file, and stops with it. -/
def move (s : PulsingScene) (i : Nat) (m : LockMove) : Bool × PulsingScene :=
  let (acquired, scene) := s.scene.move m
  let hearts := s.hearts.filter fun h => h.1 ≠ i
  let hearts :=
    if !scene.isOwner i then hearts
    else if s.scene.isOwner i then s.hearts
    else hearts ++ [(i, ⟨(s.periods[i]?).getD 0, s.scene.now⟩)]
  (acquired, { s with scene, hearts })

def pass (s : PulsingScene) : PulsingScene :=
  let scene := (s.scene.move (.wait 1)).2
  { s with scene := scene.run ((s.hearts.filter fun h => h.2.beats scene.now).map (.tick ·.1)) }

/-- Waits until something holds, for at most as long; whether it came to hold. -/
def await (holds : LockScene → Bool) : (most : Nat) → PulsingScene → Bool × PulsingScene
  | 0, s => (holds s.scene, s)
  | most + 1, s => if holds s.scene then (true, s) else await holds most s.pass

end PulsingScene

end BuildDispatch
