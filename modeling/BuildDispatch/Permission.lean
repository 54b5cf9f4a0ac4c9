import BuildDispatch.Config

/-! Who may trigger which pipeline. -/
namespace BuildDispatch

structure Permissions where
  enabled : Bool
  admins : Keys String
  operators : Table String (Keys String)
  deriving DecidableEq

namespace Permissions

/-- Of several pipelines of one name, the last one counts. -/
def ofConfig (c : Config) : Permissions where
  enabled := c.access.enabled
  admins := .ofKeys c.access.admins
  operators := .ofList (c.pipelines.map fun p => (p.name, .ofKeys p.operators))

def allows (p : Permissions) (user pipeline : String) : Bool :=
  !p.enabled || p.admins.contains user ||
    match p.operators.get? pipeline with
    | some users => users.contains user
    | none => false

def refusal (user pipeline stage : String) : String :=
  s!"User {user} does not have permission to schedule {pipeline}/{stage}"

end Permissions

end BuildDispatch
