import BuildDispatch.Config.Text
import BuildDispatch.Environment
import BuildDispatch.Path

/-! What a dispatcher's process goes by, and why it does not start. -/
namespace BuildDispatch

inductive DaemonError where
  | noStateDirectory
  | lockFailed
  | bindFailed (address reason : String)
  | config (e : ConfigError)
  | inputOutput (reason : String)

def DaemonError.message : DaemonError → String
  | noStateDirectory => "no state directory: set CV_STATE_DIR or HOME"
  | lockFailed => "Failed to acquire lock: dispatcher already running?"
  | bindFailed address reason => s!"Failed to bind {address}: {reason}"
  | config e => s!"Config error: {e.message}"
  | inputOutput reason => s!"IO error: {reason}"

/-- The settings of a dispatcher's process. Times are in milliseconds. -/
structure DaemonSettings where
  stateDirectory : String
  lockPath : String
  logPath : String
  listenAddress : String
  configPath : Option String
  payloadPath : Option String
  payloadVersion : Option String
  lostContactTimeout : Nat
  sweepInterval : Nat
  deriving DecidableEq, Repr

namespace DaemonSettings

/-- Where state is kept: the place named for it, else one below all state, else one at home. -/
def stateDirectory? (e : Environment) : Except DaemonError String :=
  match e.get? "CV_STATE_DIR", e.get? "XDG_STATE_HOME", e.get? "HOME" with
  | some dir, _, _ => .ok dir
  | none, some states, _ => .ok (Path.join states "conveyor")
  | none, none, some home => .ok (Path.join home ".local/state/conveyor")
  | none, none, none => .error .noStateDirectory

def below (e : Environment) (stateDirectory : String) : DaemonSettings where
  stateDirectory
  lockPath := Path.join stateDirectory "cvd.pid"
  logPath := Path.join stateDirectory "cvd.log"
  listenAddress := (e.text? "CV_LISTEN_ADDR").getD "127.0.0.1:8153"
  configPath := e.text? "CV_CONFIG"
  payloadPath := e.text? "CV_PAYLOAD"
  payloadVersion := e.text? "CV_PAYLOAD_VERSION"
  lostContactTimeout := e.millis "CV_LOST_CONTACT_MS" (Environment.minutes 5)
  sweepInterval := e.millis "CV_SWEEP_INTERVAL_MS" (Environment.seconds 30)

def ofEnvironment (e : Environment) : Except DaemonError DaemonSettings :=
  (stateDirectory? e).map (below e)

end DaemonSettings

end BuildDispatch
