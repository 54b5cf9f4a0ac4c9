import BuildDispatch.Environment
import BuildDispatch.Path
import BuildDispatch.Supervisor.Action

/-! What agents and supervisors go by, as far as the environment says. -/
namespace BuildDispatch

/-- What an agent's loops go by. Times are in milliseconds. -/
structure WorkerSettings where
  directory : String
  pingInterval : Nat
  workPoll : Nat
  checksum : Option String
  deriving DecidableEq, Repr

namespace WorkerSettings

/-- The variable by which a supervisor tells an agent the checksum of its payload. -/
def checksumVariable : String := "CV_AGENT_CHECKSUM"

def ofEnvironment (e : Environment) (directory : String) : WorkerSettings where
  directory
  pingInterval := e.millis "CV_PING_INTERVAL_MS" (Environment.seconds 10)
  workPoll := e.millis "CV_WORK_POLL_MS" (Environment.seconds 5)
  checksum := e.text? checksumVariable

end WorkerSettings

namespace SupervisorSettings

def lockFile : String := ".cv-supervisor.running"

def payloadFile : String := "cv-agent-payload"

/-- The wait after a crash grows with each in a row, and so does the one after a failed download. -/
def ofEnvironment (e : Environment) (directory : String) : SupervisorSettings where
  lockPath := Path.join directory lockFile
  payloadPath := Path.join directory payloadFile
  maxRestarts := e.count "CV_MAX_RESTARTS" 5
  restartBackoff := e.duration "CV_RESTART_BACKOFF_MS" (.ofSecs 2)
  healthyRun := e.duration "CV_HEALTHY_RUN_MS" (.ofSecs 600)
  downloadRetries := max (e.count "CV_DOWNLOAD_RETRIES" 5) 1
  downloadBackoff := e.duration "CV_RESTART_BACKOFF_MS" (.ofSecs 2)

end SupervisorSettings

end BuildDispatch
