import BuildDispatch.Bytes
import BuildDispatch.Table

/-! Files, as far as they are read: what a path leads to, and why it cannot be read. -/
namespace BuildDispatch

inductive FileFault where
  | missing
  | isDirectory
  /-- Bytes that are no text, where a text is wanted. -/
  | notText
  deriving DecidableEq, Repr

def FileFault.message : FileFault → String
  | missing => "No such file or directory (os error 2)"
  | isDirectory => "Is a directory (os error 21)"
  | notText => "stream did not contain valid UTF-8"

/-- The content of a file, and when it was written, in nanoseconds since the epoch. -/
structure FileVersion where
  content : Bytes
  modified : Int
  deriving DecidableEq, Repr

/-- What can be told of a path without reading what is there. -/
structure FileStat where
  length : UInt64
  /-- Missing where no time is known. -/
  modified : Option Int
  deriving DecidableEq, Repr

/-- What a path leads to, if it leads to anything. -/
inductive PathTarget where
  | file (version : FileVersion)
  | directory
  deriving DecidableEq, Repr

namespace PathTarget

/-- The length and the time of a directory are not kept track of. -/
def stat : Option PathTarget → Except FileFault FileStat
  | none => .error .missing
  | some .directory => .ok ⟨0, none⟩
  | some (.file version) => .ok ⟨version.content.length.toUInt64, some version.modified⟩

def read : Option PathTarget → Except FileFault FileVersion
  | none => .error .missing
  | some .directory => .error .isDirectory
  | some (.file version) => .ok version

end PathTarget

def readTextFile (target : Option PathTarget) : Except FileFault String := do
  match Bytes.toString? (← PathTarget.read target).content with
  | some text => return text
  | none => .error .notText

abbrev Folder := Table String PathTarget

/-- What a path below the directory leads to. One that goes nowhere leads to a directory. -/
def Folder.target? (f : Folder) (path : String) : Option PathTarget :=
  if (path.splitOn "/").all fun part => part = "" ∨ part = "." ∨ part = ".." then some .directory
  else f.get? path

end BuildDispatch
