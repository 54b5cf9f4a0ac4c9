import BuildDispatch.Supervisor.Round

/-! Runs of a supervisor next to the files that nobody else writes. -/
namespace BuildDispatch.Supervisor

/-- The contents of files, by their paths. Elsewhere there is nothing, or a directory. -/
abbrev Disk := String → Option Bytes

def Disk.put (d : Disk) (path : String) (content : Option Bytes) : Disk :=
  fun other => if other = path then content else d other

/--
How a disk may answer an action, and what the action leaves. What is told of a file is true, if
anything is told at all. A write that fails or is broken off leaves anything in its file, but a path
without a file's name at its end cannot be written. A file is renamed as a whole or not at all.
-/
def Step : Program.Rule Action Disk
  | _, d, .fileLength path, length, d' =>
    d' = d ∧ ∀ bytes, d path = some bytes → ∀ n, length = some (some n) →
      bytes.length.toUInt64 = n
  | _, d, .read path, content, d' => d' = d ∧ ∀ bytes, content = some (some bytes) →
    d path = some bytes
  | _, d, .write path content, written, d' =>
    match written with
    | some (.ok ()) => (Path.fileName? path).isSome ∧ d' = d.put path (some content)
    | _ => d' = d ∨ (Path.fileName? path).isSome ∧ ∃ left, d' = d.put path left
  | _, d, .rename source target, renamed, d' =>
    let there := ∃ bytes, d source = some bytes ∧ d' = (d.put source none).put target (some bytes)
    match renamed with
    | some (.ok ()) => there
    | some (.error _) => d' = d
    | none => d' = d ∨ there
  | _, d, _, _, d' => d' = d

abbrev Moment (σ : Type) := Program.Moment Action σ

abbrev Reaches {α : Type} (disk : Disk) :
    Program Action α → Moment Disk → Program Action α → Prop :=
  Program.Reaches Step ⟨[], disk⟩

end BuildDispatch.Supervisor
