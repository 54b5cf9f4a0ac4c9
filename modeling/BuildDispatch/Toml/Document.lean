import BuildDispatch.Toml.Text
import BuildDispatch.Toml.Scalar
import BuildDispatch.Toml.Table

/-! TOML texts read as documents. -/
namespace BuildDispatch.Toml

open Data (Document)

/-- Arrays and inline tables nest fewer levels deep than this, and a key has fewer parts. -/
def depthLimit : Nat := 80

/-- A key that is bound, with the parts before its last one. -/
structure Binding where
  path : List String
  key : String
  node : Node

def Binding.of? (parts : List String) (node : Node) : Option Binding :=
  parts.getLast?.map fun key => ⟨parts.dropLast, key, node⟩

def fill (bindings : List Binding) (b : Branch) : Option Branch :=
  bindings.foldlM (fun b x => b.define x.node x.path x.key) b

/-- A key, its equals sign, and the value after it. -/
def readBinding (value : List Char → Option (Node × List Char)) (s : List Char) :
    Option (Binding × List Char) := do
  let (parts, s) ← readKey (depthLimit - 1) s
  match s with
  | '=' :: s =>
    let (node, s) ← value (skipBlanks s)
    return (← Binding.of? parts node, s)
  | _ => none

def readElements (value : List Char → Option (Node × List Char)) (most : Nat) (s : List Char) :
    Option (List Node × List Char) :=
  match most with
  | 0 => none
  | most + 1 => do
    match ← skipLines false s with
    | ']' :: s => return ([], s)
    | s =>
      let (node, s) ← value s
      match ← skipLines false s with
      | ',' :: s =>
        let (nodes, s) ← readElements value most s
        return (node :: nodes, s)
      | ']' :: s => return ([node], s)
      | _ => none

def readMembers (value : List Char → Option (Node × List Char)) (most : Nat) (s : List Char) :
    Option (List Binding × List Char) :=
  match most with
  | 0 => none
  | most + 1 => do
    let (binding, s) ← readBinding value s
    match skipBlanks s with
    | ',' :: s =>
      let (bindings, s) ← readMembers value most s
      return (binding :: bindings, s)
    | '}' :: s => return ([binding], s)
    | _ => none

/-- A value, in which arrays and inline tables nest up to `depth` levels deep. -/
def readValue : (depth : Nat) → List Char → Option (Node × List Char)
  | 0, '[' :: _ => none
  | 0, '\x7b' :: _ => none
  | depth + 1, '[' :: s => do
    let (nodes, s) ← readElements (readValue depth) (s.length + 1) s
    return (.list nodes, s)
  | depth + 1, '\x7b' :: s =>
    match skipBlanks s with
    | '\x7d' :: s => some (.table .closed [], s)
    | s => do
      let (bindings, s) ← readMembers (readValue depth) (s.length + 1) s
      return (.table .closed (← fill bindings []), s)
  | _, '"' :: s => (readQuoted ('"' :: s)).map fun r => (.leaf (.ofString r.1), r.2)
  | _, '\'' :: s => (readQuoted ('\'' :: s)).map fun r => (.leaf (.ofString r.1), r.2)
  | _, s => (readScalar s).map fun r => (.leaf r.1, r.2)

/-- What a header opens: a table, or one more of the tables under a key. -/
structure Header where
  isElement : Bool
  path : List String
  key : String

def readHeader : List Char → Option (Header × List Char)
  | '[' :: '[' :: s => do
    match ← readKey (depthLimit - 1) s with
    | (parts, ']' :: ']' :: s) => return (⟨true, parts.dropLast, ← parts.getLast?⟩, ← endLine s)
    | _ => none
  | '[' :: s => do
    match ← readKey (depthLimit - 1) s with
    | (parts, ']' :: s) => return (⟨false, parts.dropLast, ← parts.getLast?⟩, ← endLine s)
    | _ => none
  | _ => none

structure Section where
  header : Header
  bindings : List Binding

/-- What is bound above the first header, and the sections. No text has more lines than `most`. -/
def readSections (most : Nat) (s : List Char) : Option (List Binding × List Section) :=
  match most with
  | 0 => none
  | most + 1 => do
    match skipBlanks s with
    | [] => return ([], [])
    | '[' :: s =>
      let (header, s) ← readHeader ('[' :: s)
      let (bindings, sections) ← readSections most s
      return ([], ⟨header, bindings⟩ :: sections)
    | s =>
      if s.head? = some '#' ∨ (newline? s).isSome then readSections most (← endLine s)
      else
        let (binding, s) ← readBinding (readValue (depthLimit - 1)) s
        let (bindings, sections) ← readSections most (← endLine s)
        return (binding :: bindings, sections)

def Section.place (x : Section) (root : Branch) : Option Branch :=
  root.follow
    (if x.header.isElement then Branch.append (fill x.bindings) x.header.key
      else Branch.declare (fill x.bindings) x.header.key)
    x.header.path

def document? (text : String) : Option Document := do
  let s :=
    match text.toList with
    | '\ufeff' :: s => s
    | s => s
  let (bindings, sections) ← readSections (s.length + 1) s
  let root ← sections.foldlM (fun root x => x.place root) (← fill bindings [])
  return (Node.table .declared root).document

end BuildDispatch.Toml
