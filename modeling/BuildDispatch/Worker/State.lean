import BuildDispatch.Agent

/-! What the two loops of an agent share: what it says of itself, and whether it is to stop. -/
namespace BuildDispatch

structure WorkerState where
  info : Snapshot
  /-- With a job in progress, whether that job is to stop. -/
  stopped : Option Bool
  /-- Whether the whole agent is to stop. -/
  isShutDown : Bool

namespace WorkerState

def start (info : Snapshot) : WorkerState where
  info
  stopped := none
  isShutDown := false

def building (s : WorkerState) (job : JobRef) : WorkerState :=
  { s with info := s.info.building job }

/-- From now on the job in progress may be stopped. -/
def arm (s : WorkerState) : WorkerState := { s with stopped := some false }

def disarm (s : WorkerState) : WorkerState := { s with stopped := none }

def idle (s : WorkerState) : WorkerState := { s with info := s.info.idle }

def cancelled (s : WorkerState) : WorkerState := { s with info := s.info.cancelled }

def withCookie (s : WorkerState) (cookie : Cookie) : WorkerState :=
  { s with info := s.info.withCookie cookie }

/-- Stops the job in progress, whichever it is now. -/
def trip (s : WorkerState) : WorkerState := { s with stopped := s.stopped.map fun _ => true }

/-- The whole agent is to stop, the job in progress too. -/
def shutDown (s : WorkerState) : WorkerState := { s with isShutDown := true }

def isTripped (s : WorkerState) : Bool := s.isShutDown || s.stopped = some true

end WorkerState

end BuildDispatch
