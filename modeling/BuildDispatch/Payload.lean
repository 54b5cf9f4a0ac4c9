import BuildDispatch.Files
import BuildDispatch.Manifest
import BuildDispatch.Program

/-!
The payload that is published for supervisors. Its manifest is kept until the file changes in length
or in time. The file may change from one look at it to the next.
-/
namespace BuildDispatch

inductive PayloadError where
  | notPublished
  | unreadable (path : String) (why : FileFault)
  deriving DecidableEq, Repr

def PayloadError.message : PayloadError → String
  | notPublished => "no agent payload is published"
  | unreadable path why => s!"failed to read payload {path}: {why.message}"

/-- A manifest that was made before. The time was told right before the bytes were read. -/
structure KeptManifest where
  length : UInt64
  modified : Option Int
  manifest : Manifest
  deriving DecidableEq, Repr

/-- Where the payload is, what version it is given out as, and its manifest. -/
structure PayloadStore where
  path : Option String
  version : Option String
  kept : Option KeptManifest
  deriving DecidableEq, Repr

namespace PayloadStore

def new (path version : Option String) : PayloadStore := ⟨path, version, none⟩

def describe (s : PayloadStore) (content : Bytes) : Manifest :=
  .describe (Manifest.versionOf s.version content) content

inductive Look : Type → Type 1 where
  | stat (path : String) : Look (Except FileFault FileStat)
  | content (path : String) : Look (Except FileFault Bytes)

def Look.find (target : Option PathTarget) : {β : Type} → Look β → β
  | _, .stat _ => PathTarget.stat target
  | _, .content _ => (PathTarget.read target).map (·.content)

abbrev Answer (α : Type) := Except PayloadError α × PayloadStore

def read (s : PayloadStore) : Program Look (Answer (Manifest × Bytes)) :=
  match s.path with
  | none => return (.error .notPublished, s)
  | some path => do
    let stat ← Program.ask (.stat path)
    match ← Program.ask (.content path) with
    | .error why => return (.error (.unreadable path why), s)
    | .ok content =>
      let m := s.describe content
      let modified := stat.toOption.bind (·.modified)
      return (.ok (m, content), { s with kept := some ⟨m.length, modified, m⟩ })

/-- The manifest that is kept, if it was made of a file like this one. -/
def keptFor? (s : PayloadStore) (stat : FileStat) : Option Manifest :=
  match s.kept with
  | some k => if k.length = stat.length ∧ k.modified = stat.modified then some k.manifest else none
  | none => none

/-- The manifest of a file of which this was told. -/
def manifestFor (s : PayloadStore) (stat : FileStat) : Program Look (Answer Manifest) :=
  match s.keptFor? stat with
  | some m => return (.ok m, s)
  | none => do
    let (answer, s) ← s.read
    return (answer.map Prod.fst, s)

def manifest (s : PayloadStore) : Program Look (Answer Manifest) :=
  match s.path with
  | none => return (.error .notPublished, s)
  | some path => do
    match ← Program.ask (.stat path) with
    | .error why => return (.error (.unreadable path why), s)
    | .ok stat => s.manifestFor stat

end PayloadStore

/-- What comes of looks between which nothing changes. -/
def Program.atOnce {α : Type} (looks : Program PayloadStore.Look α) (target : Option PathTarget) :
    α := Id.run (looks.run fun x => pure (x.find target))

end BuildDispatch
