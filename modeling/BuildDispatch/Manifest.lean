import BuildDispatch.Digest.Sha256

/-! What a payload is known by: its version, its checksum and its length. -/
namespace BuildDispatch

structure Manifest where
  version : String
  /-- SHA-256 in lower-case hexadecimal digits. -/
  checksum : String
  length : UInt64
  deriving DecidableEq, Repr

namespace Manifest

/-- The manifest of a payload that is published as `version`. -/
def describe (version : String) (payload : Bytes) : Manifest where
  version
  checksum := Sha256.hex payload
  length := payload.length.toUInt64

def verifies (m : Manifest) (payload : Bytes) : Bool :=
  payload.length.toUInt64 = m.length && Sha256.hex payload = m.checksum

theorem verifies_describe (version : String) (payload : Bytes) :
    (describe version payload).verifies payload = true := by
  simp [verifies, describe]

/-- A payload without a version of its own is known by the start of its checksum. -/
def versionLength : Nat := 12

/-- The version of a payload: the one that was configured, or the start of its checksum. -/
def versionOf (configured : Option String) (payload : Bytes) : String :=
  match configured with
  | some version => version
  | none => String.ofList ((Sha256.hex payload).toList.take versionLength)

end Manifest

end BuildDispatch
