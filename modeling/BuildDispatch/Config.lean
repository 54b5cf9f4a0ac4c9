import BuildDispatch.Job

/-! What the dispatcher is configured with: pipelines, and who may run them. -/
namespace BuildDispatch

structure Material where
  name : String
  url : String
  deriving DecidableEq, Repr

/-- A job as it is configured; each run of its stage makes an instance of it. -/
structure JobTemplate where
  name : String
  resources : List String
  tasks : List Task
  deriving DecidableEq, Repr

structure Stage where
  name : String
  jobs : List JobTemplate
  deriving DecidableEq, Repr

structure Pipeline where
  name : String
  /-- Users who may trigger the pipeline. -/
  operators : List String
  materials : List Material
  /-- Plain variables for every job, unless a trigger overrides them. -/
  defaults : Table String String
  stages : List Stage
  deriving DecidableEq

namespace Pipeline

def firstStage? (p : Pipeline) : Option Stage := p.stages.head?

def hasMaterial (p : Pipeline) (name : String) : Bool := p.materials.any fun m => m.name = name

end Pipeline

structure Access where
  /-- Otherwise every user may. -/
  enabled : Bool
  /-- Users who may trigger every pipeline. -/
  admins : List String
  deriving DecidableEq, Repr

def Access.unrestricted : Access := ⟨false, []⟩

structure Config where
  /-- Whether agents are approved when they are first seen. -/
  autoRegister : Bool
  access : Access
  pipelines : List Pipeline
  deriving DecidableEq

inductive ConfigFault where
  | repeatedPipeline (pipeline : String)
  | noStages (pipeline : String)
  | noJobs (pipeline stage : String)
  | repeatedJob (pipeline stage job : String)
  deriving DecidableEq, Repr

def ConfigFault.message : ConfigFault → String
  | repeatedPipeline pipeline => s!"pipeline '{pipeline}' is defined twice"
  | noStages pipeline => s!"pipeline '{pipeline}' has no stages"
  | noJobs pipeline stage => s!"stage '{pipeline}/{stage}' has no jobs"
  | repeatedJob pipeline stage job => s!"job '{job}' is defined twice in '{pipeline}/{stage}'"

namespace Config

instance : Inhabited Config := ⟨⟨false, .unrestricted, []⟩⟩

def pipeline? (c : Config) (name : String) : Option Pipeline :=
  c.pipelines.find? fun p => p.name = name

def firstRepeated? (seen : List String) : List String → Option String
  | [] => none
  | name :: rest => if name ∈ seen then some name else firstRepeated? (name :: seen) rest

def stageFault? (pipeline : String) (s : Stage) : Option ConfigFault :=
  if s.jobs.isEmpty then some (.noJobs pipeline s.name)
  else (firstRepeated? [] (s.jobs.map (·.name))).map (.repeatedJob pipeline s.name)

/-- The first fault of a pipeline, apart from its name. -/
def pipelineFault? (p : Pipeline) : Option ConfigFault :=
  if p.stages.isEmpty then some (.noStages p.name)
  else p.stages.findSome? (stageFault? p.name)

/-- The first fault of pipelines that come after others with the names `seen`. -/
def faultAfter? (seen : List String) : List Pipeline → Option ConfigFault
  | [] => none
  | p :: rest =>
    if p.name ∈ seen then some (.repeatedPipeline p.name)
    else
      match pipelineFault? p with
      | some fault => some fault
      | none => faultAfter? (p.name :: seen) rest

/-- The first fault of a configuration, in the order in which it is written. -/
def fault? (c : Config) : Option ConfigFault := faultAfter? [] c.pipelines

end Config

end BuildDispatch
