import BuildDispatch.Config
import BuildDispatch.Files
import BuildDispatch.Message.Forms
import BuildDispatch.Toml.Document

/-! The written form of configurations, and configurations read from TOML. -/
namespace BuildDispatch

open Data Form

def Material.form : Format Material :=
  .record (.required "name" .text <| .withDefault "url" .text "" .nil)
    (fun (name, url, ()) => { name, url })
    fun m => (m.name, m.url, ())

def JobTemplate.form : Format JobTemplate :=
  .record
    (.required "name" .text <| .withDefault "resources" texts [] <|
      .withDefault "tasks" (.list Task.form) [] .nil)
    (fun (name, resources, tasks, ()) => { name, resources, tasks })
    fun j => (j.name, j.resources, j.tasks, ())

def Stage.form : Format Stage :=
  .record (.required "name" .text <| .required "job" (.list JobTemplate.form) .nil)
    (fun (name, jobs, ()) => { name, jobs })
    fun s => (s.name, s.jobs, ())

def Pipeline.form : Format Pipeline :=
  .record
    (.required "name" .text <| .withDefault "operators" texts [] <|
      .withDefault "material" (.list Material.form) [] <|
      .withDefault "variables" textMap ∅ <|
      .required "stage" (.list Stage.form) .nil)
    (fun (name, operators, materials, defaults, stages, ()) =>
      { name, operators, materials, defaults, stages })
    fun p => (p.name, p.operators, p.materials, p.defaults, p.stages, ())

def Access.form : Format Access :=
  .record (.withDefault "enabled" .flag false <| .withDefault "admins" texts [] .nil)
    (fun (enabled, admins, ()) => { enabled, admins })
    fun a => (a.enabled, a.admins, ())

inductive ConfigError where
  | unreadable (path : String) (why : FileFault)
  | malformed
  | unexpected (error : ReadError)
  | invalid (fault : ConfigFault)
  deriving DecidableEq, Repr

/-- The text of an error, without the place in a text and without why a text is no TOML. -/
def ConfigError.message : ConfigError → String
  | unreadable path why => s!"failed to read {path}: {why.message}"
  | malformed => "invalid TOML: "
  | unexpected error => s!"invalid TOML: {error.message}"
  | invalid fault => s!"invalid configuration: {fault.message}"

namespace Config

def form : Format Config :=
  .record
    (.withDefault "auto_register" .flag false <|
      .withDefault "security" Access.form .unrestricted <|
      .withDefault "pipeline" (.list Pipeline.form) [] .nil)
    (fun (autoRegister, access, pipelines, ()) => { autoRegister, access, pipelines })
    fun c => (c.autoRegister, c.access, c.pipelines, ())

def parse (text : String) : Except ConfigError Config :=
  match Toml.document? text with
  | none => .error .malformed
  | some d =>
    match form.read .table 0 d with
    | .error e => .error (.unexpected e)
    | .ok c =>
      match c.fault? with
      | some fault => .error (.invalid fault)
      | none => .ok c

def load (path : String) (target : Option PathTarget) : Except ConfigError Config :=
  match readTextFile target with
  | .ok text => parse text
  | .error why => .error (.unreadable path why)

end Config

end BuildDispatch
