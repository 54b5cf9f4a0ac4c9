import BuildDispatch.Supervisor.Run
import BuildDispatch.Worker.Run
import BuildDispatch.Worker.Settings

/-!
A host: a supervisor and the agents that it launches one after the other, while the payload that is
published for them may change at any moment.
-/
namespace BuildDispatch

structure Publication where
  version : String
  payload : Bytes

namespace Publication

def manifest (p : Publication) : Manifest := .describe p.version p.payload

/-- What a supervisor is told of the publication is true, if it is told anything. -/
def Tells (p : Publication) : {β : Type} → Supervisor.Action β → β → Prop
  | _, .manifest, some (.ok m) => m = p.manifest
  | _, .fetch, some (.ok (m, payload)) => m = p.manifest ∧ payload = p.payload
  | _, _, _ => True

def Shows (p : Publication) : {β : Type} → Worker.Action β → β → Prop
  | _, .call .payloadManifest, .ok m => m = p.manifest
  | _, _, _ => True

end Publication

structure HostSettings where
  supervisor : SupervisorSettings
  environment : Environment
  directory : String

/-- What an agent goes by: its environment is the supervisor's, with the payload's checksum. -/
def HostSettings.agent (c : HostSettings) (p : InstalledPayload) : WorkerSettings :=
  .ofEnvironment (c.environment.insert WorkerSettings.checksumVariable p.manifest.checksum)
    c.directory

namespace Host

abbrev Watch := Program Supervisor.Action (Option Supervisor.Ending)

abbrev Service := Worker.Script (Option WorkerExit)

inductive Activity where
  | watching (rest : Watch)
  /-- An agent, with what it has done and has left to do. Its end is told to the supervisor. -/
  | serving (payload : InstalledPayload) (told : Supervisor.LaunchEnd → Watch)
    (moment : Program.Moment Worker.Action WorkerState) (rest : Service)

end Host

structure Host where
  published : Publication
  disk : Supervisor.Disk
  activity : Host.Activity

namespace Host

def start (c : HostSettings) (most : Nat) (published : Publication) (disk : Supervisor.Disk) :
    Host := ⟨published, disk, .watching (Supervisor.supervise c.supervisor most)⟩

def exitCode : WorkerExit → Int32
  | .upgrade => 0
  | .shutdown => 0

/--
One action of whoever is at work, after which anything may be published. An agent starts without a
job. It ends by itself or in any other way, which includes that it never came to start.
-/
inductive Moves (c : HostSettings) : Host → Host → Prop where
  | watch {published published' : Publication} {disk disk' : Supervisor.Disk} {β : Type}
    {x : Supervisor.Action β} {next : β → Watch} {b : β} (apart : x.isLaunch = false)
    (step : Supervisor.Step β disk x b disk') (told : published.Tells x b) :
    Moves c ⟨published, disk, .watching (.act x next)⟩ ⟨published', disk', .watching (next b)⟩
  | launch {published published' : Publication} {disk : Supervisor.Disk} {p : InstalledPayload}
    {told : Supervisor.LaunchEnd → Watch} {info : Snapshot} (most : Nat)
    (idle : (info.status, info.currentJob) = (.idle, none)) :
    Moves c ⟨published, disk, .watching (.act (.launch p) told)⟩
      ⟨published', disk, .serving p told ⟨[], .start info⟩
        (Worker.serve (c.agent p).checksum most)⟩
  | serve {published published' : Publication} {disk : Supervisor.Disk} {p : InstalledPayload}
    {told : Supervisor.LaunchEnd → Watch} {m : Program.Moment Worker.Action WorkerState} {β : Type}
    {x : Worker.Action β} {next : β → Service} {b : β} {s : WorkerState}
    (step : Worker.Step β m.state x b s) (shown : published.Shows x b) :
    Moves c ⟨published, disk, .serving p told m (.act x next)⟩
      ⟨published', disk, .serving p told (m.after x b s) (next b)⟩
  | leave {published published' : Publication} {disk : Supervisor.Disk} {p : InstalledPayload}
    {told : Supervisor.LaunchEnd → Watch} {m : Program.Moment Worker.Action WorkerState}
    (exit : WorkerExit) (ranFor : Duration) :
    Moves c ⟨published, disk, .serving p told m (.done (some exit))⟩
      ⟨published', disk, .watching (told (.exited (.code (exitCode exit)) ranFor))⟩
  | perish {published published' : Publication} {disk : Supervisor.Disk} {p : InstalledPayload}
    {told : Supervisor.LaunchEnd → Watch} {m : Program.Moment Worker.Action WorkerState}
    {rest : Service} (stop : Supervisor.LaunchEnd) :
    Moves c ⟨published, disk, .serving p told m rest⟩ ⟨published', disk, .watching (told stop)⟩

end Host

end BuildDispatch
