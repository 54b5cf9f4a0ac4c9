import BuildDispatch.Board
import BuildDispatch.Permission

/-!
Triggers, and the jobs that they make. Of the triggers of one pipeline, one at a time is in flight;
the others are turned away.
-/
namespace BuildDispatch

inductive Trigger where
  | manual (pipeline user : String) (options : TriggerOptions)
  | material (pipeline : String) (revisions : List Revision)
  deriving DecidableEq

namespace Trigger

def pipeline : Trigger → String
  | manual pipeline _ _ => pipeline
  | material pipeline _ => pipeline

def origin : Trigger → Origin
  | manual _ user _ => .manual user
  | material .. => .materialChange

def overrides : Trigger → List Variable
  | manual _ _ options => options.environment
  | material .. => []

def materials : Trigger → List String
  | manual _ _ options => options.revisions.keys
  | material _ revisions => revisions.map (·.material)

def revisionsOf (latest : Option BuildCause) : List (String × String) :=
  match latest with
  | some c => c.revisions.map fun r => (r.material, r.revision)
  | none => []

/-- The revisions of the next run. A manual trigger changes some of those of the latest. -/
def revisions (t : Trigger) (latest : Option BuildCause) : Table String String :=
  match t with
  | manual _ _ options => (Table.ofList (revisionsOf latest)).insertAll options.revisions.entries
  | material _ revisions => .ofList (revisions.map fun r => (r.material, r.revision))

def sameRevisions (c : BuildCause) (revisions : Table String String) : Bool :=
  c.revisions.length = revisions.size &&
    c.revisions.all fun r => revisions.get? r.material = some r.revision

/-- Whether there is anything to run. A manual trigger always runs. -/
def isChange (t : Trigger) (latest : Option BuildCause) : Bool :=
  match t, latest with
  | material .., some c => !sameRevisions c (t.revisions latest)
  | _, _ => true

def noStages (pipeline : String) : ScheduleOutcome := .invalid s!"pipeline {pipeline} has no stages"

def unknownMaterial (pipeline material : String) : ScheduleOutcome :=
  .invalid s!"material {material} is not part of pipeline {pipeline}"

/-- Whether the permission of a user is looked up, which comes before all else. -/
def asksPermission (t : Trigger) (p : Pipeline) : Bool :=
  match t with
  | manual .. => p.firstStage?.isSome
  | material .. => false

def refusal? (t : Trigger) (p : Pipeline) (permissions : Permissions) : Option ScheduleOutcome :=
  match t with
  | manual pipeline user _ =>
    match p.firstStage? with
    | none => some (noStages pipeline)
    | some stage =>
      if permissions.allows user pipeline then none
      else some (.unauthorized (Permissions.refusal user pipeline stage.name))
  | material .. => none

/-- The variables of jobs: those of the pipeline that are not overridden, and then the others. -/
def mergeVariables (defaults : Table String String) (overrides : List Variable) : List Variable :=
  (defaults.entries.filter fun e => !overrides.any fun v => v.name = e.1).map
    (fun e => .plain e.1 e.2) ++ overrides

def cause (t : Trigger) (p : Pipeline) (latest : Option BuildCause) (now : Timestamp) :
    BuildCause where
  pipeline := p.name
  counter :=
    match latest with
    | some c => c.counter + 1
    | none => 1
  origin := t.origin
  revisions := (t.revisions latest).entries.map fun e => ⟨e.1, e.2⟩
  environment := mergeVariables p.defaults t.overrides
  jobs := []
  createdAt := now

def decide (t : Trigger) (p : Pipeline) (permissions : Permissions) (latest : Option BuildCause)
    (now : Timestamp) : Except ScheduleOutcome (BuildCause × Stage) :=
  match t.refusal? p permissions with
  | some outcome => .error outcome
  | none =>
    match t.materials.find? fun m => !p.hasMaterial m with
    | some m => .error (unknownMaterial t.pipeline m)
    | none =>
      if t.isChange latest then
        match p.firstStage? with
        | some stage => .ok (t.cause p latest now, stage)
        | none => .error (noStages p.name)
      else .error (.noChange t.pipeline)

end Trigger

/-- What it takes to run a job in a run of its stage. -/
def JobTemplate.plan (j : JobTemplate) (c : BuildCause) (stage : String) : Plan where
  resources := .ofKeys j.resources
  tasks := j.tasks
  environment := c.environment
  artifactLocation := s!"{c.pipeline}/{c.label}/{stage}/{j.name}"

structure Scheduler where
  config : Config
  permissions : Permissions
  board : Board
  /-- The pipelines of which a trigger is in flight. -/
  inFlight : Keys String
  deriving DecidableEq

namespace Scheduler

def new (config : Config) : Scheduler := ⟨config, .ofConfig config, .empty, ∅⟩

/-- Lets a trigger in, if its pipeline is known and no other trigger of it is in flight. -/
def enter (s : Scheduler) (t : Trigger) : Except ScheduleOutcome (Pipeline × Scheduler) :=
  match s.config.pipeline? t.pipeline with
  | none => .error (.unknownPipeline t.pipeline)
  | some p =>
    if s.inFlight.contains t.pipeline then .error (.alreadyInFlight t.pipeline)
    else .ok (p, { s with inFlight := s.inFlight.insert t.pipeline () })

def leave (s : Scheduler) (t : Trigger) : Scheduler :=
  { s with inFlight := s.inFlight.erase t.pipeline }

def createJob (s : Scheduler) (c : BuildCause) (stage : String) (j : JobTemplate)
    (now : Timestamp) : BuildId × Scheduler :=
  let (id, board) := s.board.create c.pipeline c.label stage j.name (j.plan c stage) now
  (id, { s with board })

def createJobs (s : Scheduler) (c : BuildCause) (stage : String) (now : Timestamp) :
    List JobTemplate → List BuildId × Scheduler
  | [] => ([], s)
  | j :: rest =>
    let (id, s) := s.createJob c stage j now
    let (ids, s) := s.createJobs c stage now rest
    (id :: ids, s)

def latest? (s : Scheduler) (pipeline : String) : Option BuildCause :=
  s.board.repository.latest? pipeline

def saveCause (s : Scheduler) (c : BuildCause) : Scheduler :=
  { s with board := { s.board with repository := s.board.repository.saveCause c } }

def carryOut (s : Scheduler) (p : Pipeline) (t : Trigger) (now : Timestamp) :
    ScheduleOutcome × Scheduler :=
  match t.decide p s.permissions (s.latest? t.pipeline) now with
  | .error outcome => (outcome, s)
  | .ok (c, stage) =>
    let (ids, s) := s.createJobs c stage.name now stage.jobs
    (.scheduled c.pipeline c.label ids, s.saveCause { c with jobs := ids })

def trigger (s : Scheduler) (t : Trigger) (now : Timestamp) : ScheduleOutcome × Scheduler :=
  match s.enter t with
  | .error outcome => (outcome, s)
  | .ok (p, s) =>
    let (outcome, s) := s.carryOut p t now
    (outcome, s.leave t)

end Scheduler

end BuildDispatch
