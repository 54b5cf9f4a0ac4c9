import BuildDispatch.Cause

/-! The store of jobs and of the latest build cause of each pipeline. -/
namespace BuildDispatch

structure Repository where
  jobs : Table BuildId Job
  latestCauses : Table String BuildCause
  deriving DecidableEq

namespace Repository

def empty : Repository := ⟨∅, ∅⟩

instance : Inhabited Repository := ⟨empty⟩

def saveJob (r : Repository) (j : Job) : Repository := { r with jobs := r.jobs.insert j.buildId j }

def findJob? (r : Repository) (id : BuildId) : Option Job := r.jobs.get? id

/-- Keeps a cause, unless one with a greater counter is kept already. -/
def saveCause (r : Repository) (c : BuildCause) : Repository :=
  match r.latestCauses.get? c.pipeline with
  | none => { r with latestCauses := r.latestCauses.insert c.pipeline c }
  | some kept =>
    if kept.counter ≤ c.counter then { r with latestCauses := r.latestCauses.insert c.pipeline c }
    else r

def latest? (r : Repository) (pipeline : String) : Option BuildCause :=
  r.latestCauses.get? pipeline

end Repository

end BuildDispatch
