import BuildDispatch.Job

/-! Why pipelines run: material changes, manual triggers and their options, and build causes. -/
namespace BuildDispatch

structure Revision where
  material : String
  revision : String
  deriving DecidableEq, Repr

structure TriggerOptions where
  /-- Revisions of materials, instead of the latest ones. -/
  revisions : Table String String
  /-- Variables whose values may be shown. -/
  plain : Table String String
  /-- Variables whose values are secrets. -/
  secure : Table String String
  deriving DecidableEq

namespace TriggerOptions

def none : TriggerOptions := ⟨∅, ∅, ∅⟩

instance : Inhabited TriggerOptions := ⟨none⟩

/-- The variables for the jobs: the plain ones, then the secure ones, each in the order of names. -/
def environment (o : TriggerOptions) : List Variable :=
  o.plain.entries.map (fun e => .plain e.1 e.2) ++
    o.secure.entries.map fun e => .secret e.1 e.2

def isEmpty (o : TriggerOptions) : Bool :=
  o.revisions.isEmpty && o.plain.isEmpty && o.secure.isEmpty

end TriggerOptions

inductive Origin where
  | manual (user : String)
  | materialChange
  deriving DecidableEq, Repr

/-- One run of a pipeline: what set it off, and the jobs made for it. -/
structure BuildCause where
  pipeline : String
  /-- Counts the runs of the pipeline, and labels this one. -/
  counter : UInt64
  origin : Origin
  /-- In the order of materials. -/
  revisions : List Revision
  environment : List Variable
  jobs : List BuildId
  createdAt : Timestamp
  deriving DecidableEq, Repr

def BuildCause.label (c : BuildCause) : String := Text.decimal c.counter.toNat

end BuildDispatch
