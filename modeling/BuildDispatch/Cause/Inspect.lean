import BuildDispatch.Cause
import BuildDispatch.Text.Inspect

/-! Variables and trigger options shown for inspection, with secure values masked. -/
namespace BuildDispatch

open Text (Shape)

def Variable.shape (v : Variable) : Shape :=
  .record "EnvironmentVariable"
    [("name", .text v.name), ("value", .text v.shownValue),
      ("secure", .word (if v.secure then "true" else "false"))]

def shapeOfTexts (t : Table String String) : Shape :=
  .map (t.entries.map fun e => (e.1, .text e.2))

/-- The names of secure variables, each with the mask for its value. -/
def shapeOfSecrets (t : Table String String) : Shape :=
  .map (t.entries.map fun e => (e.1, .text Variable.mask))

def TriggerOptions.shape (o : TriggerOptions) : Shape :=
  .record "ScheduleOptions"
    [("revisions", shapeOfTexts o.revisions), ("variables", shapeOfTexts o.plain),
      ("secure_variables", shapeOfSecrets o.secure)]

end BuildDispatch
