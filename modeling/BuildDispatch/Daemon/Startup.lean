import BuildDispatch.Daemon.PidFile
import BuildDispatch.Daemon.Settings
import BuildDispatch.Dispatcher

/-! How a dispatcher's process starts and stops. -/
namespace BuildDispatch

/-- What a startup meets on its way: how each step ends that depends on the world outside. -/
structure StartupTrials where
  makeDirectory : Except String Unit
  openPidFile : Except String Unit
  truncate : Except String Unit
  writePid : Except String Unit
  config : Except ConfigError Config
  bind : Except String Unit
  /-- Whether the pid file goes away, once it is to be removed. -/
  removed : Bool

structure Daemon where
  settings : DaemonSettings
  pidFile : Nat
  dispatcher : Dispatcher

namespace Daemon

def pidLine (pid : Nat) : String := s!"{pid}\n"

/-- What follows once the lock is held: the pid is written, then all else is made ready. -/
def prepare (c : DaemonSettings) (pid file : Nat) (trials : StartupTrials) (site : PidSite) :
    Except DaemonError Daemon × PidSite :=
  match trials.truncate, trials.writePid, trials.config, trials.bind with
  | .error reason, _, _, _ => (.error (.inputOutput reason), site)
  | .ok (), .error reason, _, _ => (.error (.inputOutput reason), site.write file "")
  | .ok (), .ok (), .error e, _ => (.error (.config e), site.write file (pidLine pid))
  | .ok (), .ok (), .ok _, .error reason =>
    (.error (.bindFailed c.listenAddress reason), site.write file (pidLine pid))
  | .ok (), .ok (), .ok config, .ok () =>
    (.ok ⟨c, file, .new config (.new c.payloadPath c.payloadVersion)⟩,
      site.write file (pidLine pid))

/-- The steps of a startup. Where one fails, the lock is let go again. -/
def attempt (c : DaemonSettings) (pid : Nat) (trials : StartupTrials) (site : PidSite) :
    Except DaemonError Daemon × PidSite :=
  match trials.makeDirectory, trials.openPidFile with
  | .error reason, _ => (.error (.inputOutput reason), site)
  | .ok (), .error reason => (.error (.inputOutput reason), site)
  | .ok (), .ok () =>
    let (file, site) := site.openFile
    match site.lock? file with
    | none => (.error .lockFailed, site)
    | some site =>
      match prepare c pid file trials site with
      | (.ok daemon, site) => (.ok daemon, site)
      | (.error e, site) => (.error e, site.unlock file)

/-- Takes the pid file away. One that cannot be removed is left where it is. -/
def clear (removed : Bool) (site : PidSite) : PidSite := if removed then site.remove else site

/-- Starts a dispatcher. Unless it is the lock that is refused, a failure removes the pid file. -/
def startup (c : DaemonSettings) (pid : Nat) (trials : StartupTrials) (site : PidSite) :
    Except DaemonError Daemon × PidSite :=
  match attempt c pid trials site with
  | (.ok daemon, site) => (.ok daemon, site)
  | (.error .lockFailed, site) => (.error .lockFailed, site)
  | (.error e, site) => (.error e, clear trials.removed site)

/-- Stops a dispatcher: its pid file is removed, then its lock let go. -/
def shutdown (d : Daemon) (removed : Bool) (site : PidSite) : PidSite :=
  (clear removed site).unlock d.pidFile

end Daemon

end BuildDispatch
