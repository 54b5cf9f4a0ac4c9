import BuildDispatch.Supervisor.Action

/-! How a supervisor comes by the payload that is published: the one installed, or a download. -/
namespace BuildDispatch.Supervisor

/-- Asks for the manifest, of which `made` attempts failed, with `left` more. -/
def obtainManifest (c : SupervisorSettings) : (made left : Nat) → Supervision Manifest
  | made, 0 => do
    match ← await .manifest with
    | .ok m => return m
    | .error e => fail (.download (made + 1) e)
  | made, left + 1 => do
    match ← await .manifest with
    | .ok m => return m
    | .error e =>
      if !e.isTransient then fail (.download (made + 1) e)
      pause .download c.downloadBackoff (made + 1)
      obtainManifest c (made + 1) left

def isInstalled (c : SupervisorSettings) (m : Manifest) : Supervision Bool := do
  if (← await (.fileLength c.payloadPath)) ≠ some m.length then return false
  match ← await (.read c.payloadPath) with
  | some payload => return m.verifies payload
  | none => return false

def installStep (c : SupervisorSettings) (x : Action (Option (Except String Unit))) :
    Supervision Unit := do
  match ← await x with
  | .ok () => return ()
  | .error reason => fail (.install c.payloadPath reason)

/-- Writes a payload beside its place, from where it is put there as a whole. -/
def install (c : SupervisorSettings) (payload : Bytes) : Supervision Unit := do
  if let some directory := Path.parent? c.payloadPath then
    installStep c (.makeDirectory directory)
  installStep c (.write c.partialPath payload)
  installStep c (.makeExecutable c.partialPath)
  installStep c (.rename c.partialPath c.payloadPath)

inductive Fetched where
  | installed (manifest : Manifest)
  /-- Other bytes than the manifest that came with them describes. -/
  | corrupt (expected : String)
  /-- Trouble that may pass. -/
  | failed (cause : CallError)

/-- One attempt to download, after `made` others. -/
def fetchOnce (c : SupervisorSettings) (made : Nat) : Supervision Fetched := do
  match ← await .fetch with
  | .ok (m, payload) =>
    if !m.verifies payload then return .corrupt m.checksum
    install c payload
    return .installed m
  | .error e =>
    if !e.isTransient then fail (.download (made + 1) e)
    return .failed e

/--
Downloads the payload, of which `made` attempts failed, with `left` more. What the latest corrupt
download should have had as its checksum is remembered.
-/
def download (c : SupervisorSettings) :
    (corrupt : Option String) → (made left : Nat) → Supervision Manifest
  | corrupt, made, 0 => fail (.corrupt made (corrupt.getD ""))
  | corrupt, made, left + 1 => do
    match ← fetchOnce c made with
    | .installed m => return m
    | .corrupt expected =>
      if left ≠ 0 then pause .download c.downloadBackoff (made + 1)
      download c (some expected) (made + 1) left
    | .failed e =>
      if left = 0 then fail (.download (made + 1) e)
      pause .download c.downloadBackoff (made + 1)
      download c corrupt (made + 1) left

def ensurePayload (c : SupervisorSettings) : Supervision InstalledPayload := do
  let m ← obtainManifest c 0 (c.attempts - 1)
  if ← isInstalled c m then return ⟨c.payloadPath, m⟩
  return ⟨c.payloadPath, ← download c none 0 c.attempts⟩

end BuildDispatch.Supervisor
