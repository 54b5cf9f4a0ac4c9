import BuildDispatch.Job
import BuildDispatch.Path

/-! Where the tasks of a job run, and the variables that they see. -/
namespace BuildDispatch

def JobRef.directory (root : String) (job : JobRef) : String :=
  Path.join (Path.join root "pipelines") job.pipeline

def Task.directory (root : String) (job : JobRef) (task : Task) : String :=
  match task.workingDir with
  | some relative => Path.join (job.directory root) relative
  | none => job.directory root

/-- The variables that a task sees: of several of one name, the last one; else the inherited one. -/
def Task.environment (inherited : Table String String) (given : List Variable) :
    Table String String :=
  inherited.insertAll (given.map fun v => (v.name, v.value))

end BuildDispatch
