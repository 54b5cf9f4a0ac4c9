import BuildDispatch.Table
import BuildDispatch.Data.Document
import BuildDispatch.Data.Value

/-!
Formats: how the values of a type are written as plain values and read back from documents. A format
is data, so that what holds of reading and writing is proved once, by induction on formats.
-/
namespace BuildDispatch.Data

inductive ReadError where
  | fault (why : Fault)
  | missingField (name : String)
  | duplicateField (name : String)
  | unknownVariant (name : String)
  /-- A value of the wrong kind, out of range, or of the wrong length. -/
  | mismatch
  deriving DecidableEq, Repr

/-- The text of an error in the data. A fault of the text has none. -/
def ReadError.message : ReadError → String
  | fault _ => ""
  | missingField name => s!"missing field \x60{name}\x60"
  | duplicateField name => s!"duplicate field \x60{name}\x60"
  | unknownVariant name => s!"unknown variant \x60{name}\x60"
  | mismatch => "invalid"

inductive Mode where
  /-- As the text is met: faults of the text may follow. -/
  | direct
  /-- After the whole value has been absorbed, as the content of a tagged value is. -/
  | buffered
  /-- From a configuration table: elements beyond the last field of a record are passed over. -/
  | table
  deriving DecidableEq, Repr

/-- What stands in for a field that a document does not have. -/
inductive Absence (α : Type) where
  | refused
  /-- A value, but only where the fields are named. -/
  | named (value : α)
  /-- A value, also for a record that is written as a list and ends before the field. -/
  | anywhere (value : α)

/-- A record being read: whether a field has been met, and how it is filled. -/
structure Slot (σ : Type) where
  filled : σ → Bool
  fill : Document → σ → Except ReadError σ

mutual

inductive Format : Type → Type 1 where
  | flag : Format Bool
  /-- A whole number up to `limit`. -/
  | word (limit : UInt64) : Format UInt64
  | text : Format String
  | option {α : Type} (format : Format α) : Format (Option α)
  | list {α : Type} (format : Format α) : Format (List α)
  /-- A set of texts, as a list of its members. -/
  | keys : Format (Keys String)
  /-- A map from texts, as an object. -/
  | map {α : Type} (format : Format α) : Format (Table String α)
  /-- One of a few values, each known by its name. -/
  | named {α : Type} (all : List α) (name : α → String) : Format α
  | record {α ρ σ : Type} (fields : Fields ρ σ) (build : ρ → α) (parts : α → ρ) : Format α
  /-- One of several records, of which the member `tag` names which. -/
  | tagged {α : Type} (tag : String) (variants : Variants α) : Format α
  | via {α β : Type} (format : Format α) (build : α → β) (parts : β → α) : Format β

/-- The fields of a record, in order: the types of their values, and of the values met so far. -/
inductive Fields : Type → Type → Type 1 where
  | nil : Fields Unit Unit
  /-- A field is left out in writing when its value is `hidden`. -/
  | cons {α ρ σ : Type} (name : String) (format : Format α) (absence : Absence α)
      (hidden : α → Bool) (rest : Fields ρ σ) : Fields (α × ρ) (Option α × σ)

inductive Variants : Type → Type 1 where
  | nil {α : Type} : Variants α
  | cons {α ρ σ : Type} (name : String) (fields : Fields ρ σ) (build : ρ → α)
      (parts : α → Option ρ) (rest : Variants α) : Variants α

end

namespace Fields

def required {α ρ σ : Type} (name : String) (format : Format α) (rest : Fields ρ σ) :
    Fields (α × ρ) (Option α × σ) :=
  .cons name format .refused (fun _ => false) rest

def withDefault {α ρ σ : Type} (name : String) (format : Format α) (value : α)
    (rest : Fields ρ σ) : Fields (α × ρ) (Option α × σ) :=
  .cons name format (.anywhere value) (fun _ => false) rest

/-- A field that may be nothing, and is then left out. -/
def optional {α ρ σ : Type} (name : String) (format : Format α) (rest : Fields ρ σ) :
    Fields (Option α × ρ) (Option (Option α) × σ) :=
  .cons name (.option format) (.anywhere none) Option.isNone rest

end Fields

def met {α : Type} : Except Fault α → Except ReadError α
  | .ok a => .ok a
  | .error why => .error (.fault why)

/-- The error for a value of the wrong kind. Scalars are read to their end before that is seen. -/
def Document.mismatch : Document → ReadError
  | .absent why => .fault why
  | .literal (.error why) => .fault why
  | .number (.error why) _ => .fault why
  | .text (.error why) _ => .fault why
  | _ => .mismatch

/-- Lists and objects nest to a limit where a text is read as it is met. -/
def enter (mode : Mode) (depth : Nat) : Except ReadError Unit :=
  if mode = .direct ∧ depth ≤ 1 then .error (.fault .malformed) else .ok ()

/-- Takes in a whole value before it is read, unless that has been done. -/
def Document.hold (d : Document) (mode : Mode) (depth : Nat) : Except ReadError Unit :=
  if mode = .direct then met (d.absorb depth) else .ok ()

def Items.hold (items : Items) (mode : Mode) (depth : Nat) : Except ReadError Unit :=
  if mode = .direct then met (items.absorb depth) else .ok ()

def readItems {α : Type} (read : Document → Except ReadError α) : Items → Except ReadError (List α)
  | .close outcome => (met outcome).map fun _ => []
  | .item head rest => do
    let a ← read head
    let as ← readItems read rest
    return a :: as

def readEntries {α : Type} (read : Document → Except ReadError α) :
    Members → Except ReadError (List (String × α))
  | .close outcome => (met outcome).map fun _ => []
  | .member key colon value rest => do
    let k ← met key.key
    met colon
    let a ← read value
    let as ← readEntries read rest
    return (k, a) :: as

def readText : Document → Except ReadError String
  | .text value _ => met value
  | other => .error other.mismatch

def ofName {α : Type} (all : List α) (name : α → String) (s : String) : Except ReadError α :=
  match all.find? fun a => name a = s with
  | some a => .ok a
  | none => .error (.unknownVariant s)

def readUnit (mode : Mode) : Document → Except ReadError Unit
  | .literal (.ok none) => .ok ()
  | .object (.close (.ok ())) => if mode = .direct then .error .mismatch else .ok ()
  | other => .error other.mismatch

/--
A value known by its name: the name alone, or an object whose only member it is. Read as it is met,
anything that starts neither a text nor an object is a fault of the text.
-/
def readNamed {α : Type} (all : List α) (name : α → String) (mode : Mode) (depth : Nat) :
    Document → Except ReadError α
  | .text value _ => do ofName all name (← met value)
  | .object (.close outcome) => do
    enter mode depth
    met outcome
    .error (if mode = .direct then .fault .malformed else .mismatch)
  | .object (.member key colon value (.close outcome)) => do
    enter mode depth
    let a ← ofName all name (← readText key)
    met colon
    readUnit mode value
    met outcome
    return a
  | .object (.member key colon value (.member ..)) => do
    enter mode depth
    if mode ≠ .direct then .error .mismatch
    let _ ← ofName all name (← readText key)
    met colon
    readUnit mode value
    .error (.fault .malformed)
  | .absent why => .error (.fault why)
  | _ => .error (if mode = .direct then .fault .malformed else .mismatch)

/-- Which variant a tag names. Among values that have been absorbed, a number names it by place. -/
def readTag (names : List String) (mode : Mode) : Document → Except ReadError Nat
  | .text value _ => do
    let name ← met value
    match names.idxOf? name with
    | some i => .ok i
    | none => .error (.unknownVariant name)
  | .number (.ok (.whole n)) _ =>
    if mode ≠ .direct ∧ n.toNat < names.length then .ok n.toNat else .error .mismatch
  | other => .error other.mismatch

/-- The tag among the members of an object, all the others of which are absorbed. -/
def findTag (tag : String) (names : List String) (mode : Mode) (depth : Nat) :
    Option Nat → Members → Except ReadError (Option Nat)
  | found, .close outcome => (met outcome).map fun _ => found
  | found, .member key colon value rest => do
    let k ← met key.key
    if k = tag then
      if found.isSome then .error (.duplicateField tag)
      met colon
      let i ← readTag names mode value
      findTag tag names mode depth (some i) rest
    else
      met colon
      value.hold mode depth
      findTag tag names mode depth found rest

/-- The members of a record. Those of other names are passed over. -/
def readMembers {σ : Type} (slot : String → Option (Slot σ)) : σ → Members → Except ReadError σ
  | s, .close outcome => (met outcome).map fun _ => s
  | s, .member key colon value rest => do
    let k ← met key.key
    match slot k with
    | some field =>
      if field.filled s then .error (.duplicateField k)
      met colon
      let s ← field.fill value s
      readMembers slot s rest
    | none =>
      met colon
      met value.skip
      readMembers slot s rest

/-- What may follow the last field of a record that is written as a list. -/
def endOfRecord (mode : Mode) : Items → Except ReadError Unit
  | .close outcome => met outcome
  | .item .. =>
    match mode with
    | .direct => .error (.fault .malformed)
    | .buffered => .error .mismatch
    | .table => .ok ()

def Variants.names {α : Type} : Variants α → List String
  | .nil => []
  | .cons name _ _ _ rest => name :: rest.names

def Fields.unmet {ρ σ : Type} : Fields ρ σ → σ
  | .nil => ()
  | .cons _ _ _ _ rest => (none, rest.unmet)

/-- The record of the fields met; the first that is wanted and was not met is missing. -/
def Fields.finish {ρ σ : Type} : Fields ρ σ → σ → Except ReadError ρ
  | .nil, _ => .ok ()
  | .cons name _ absence _ rest, (met, others) => do
    let a ← match met, absence with
      | some a, _ => .ok a
      | none, .refused => .error (.missingField name)
      | none, .named a => .ok a
      | none, .anywhere a => .ok a
    return (a, ← rest.finish others)

mutual

/-- Reads a value, in which lists and objects may nest fewer than `depth` levels deep. -/
def Format.read {α : Type} : Format α → Mode → Nat → Document → Except ReadError α
  | .flag, _, _, d =>
    match d with
    | .literal (.ok (some b)) => .ok b
    | other => .error other.mismatch
  | .word limit, _, _, d =>
    match d with
    | .number (.ok (.whole n)) _ => if n ≤ limit then .ok n else .error .mismatch
    | other => .error other.mismatch
  | .text, _, _, d => readText d
  | .option format, mode, depth, d =>
    match d with
    | .literal (.ok none) => .ok none
    | .literal (.error why) => .error (.fault why)
    | other => (format.read mode depth other).map some
  | .list format, mode, depth, d =>
    match d with
    | .list items => do
      enter mode depth
      readItems (format.read mode (depth - 1)) items
    | other => .error other.mismatch
  | .keys, mode, depth, d =>
    match d with
    | .list items => do
      enter mode depth
      return .ofKeys (← readItems readText items)
    | other => .error other.mismatch
  | .map format, mode, depth, d =>
    match d with
    | .object members => do
      enter mode depth
      return .ofList (← readEntries (format.read mode (depth - 1)) members)
    | other => .error other.mismatch
  | .named all name, mode, depth, d => readNamed all name mode depth d
  | .record fields build _, mode, depth, d =>
    match d with
    | .list items => do
      enter mode depth
      let (r, rest) ← fields.readItems mode (depth - 1) items
      endOfRecord mode rest
      return build r
    | .object members => do
      enter mode depth
      let s ← readMembers (fields.slot mode (depth - 1)) fields.unmet members
      return build (← fields.finish s)
    | other => .error other.mismatch
  | .tagged tag variants, mode, depth, d =>
    match d with
    | .list (.close outcome) => do
      enter mode depth
      met outcome
      .error (.missingField tag)
    | .list (.item head rest) => do
      enter mode depth
      let i ← readTag variants.names mode head
      rest.hold mode (depth - 1)
      variants.readItems i rest
    | .object members => do
      enter mode depth
      match ← findTag tag variants.names mode (depth - 1) none members with
      | some i => variants.readMembers i (members.without tag)
      | none => .error (.missingField tag)
    | other => .error other.mismatch
  | .via format build _, mode, depth, d => (format.read mode depth d).map build

def Fields.slot {ρ σ : Type} : Fields ρ σ → Mode → Nat → String → Option (Slot σ)
  | .nil, _, _, _ => none
  | .cons name format _ _ rest, mode, depth, k =>
    if k = name then
      some
        { filled := fun s => s.1.isSome
          fill := fun d s => (format.read mode depth d).map fun a => (some a, s.2) }
    else
      (rest.slot mode depth k).map fun inner =>
        { filled := fun s => inner.filled s.2
          fill := fun d s => (inner.fill d s.2).map fun t => (s.1, t) }

/-- The fields of a record that is written as a list, and the elements after the last of them. -/
def Fields.readItems {ρ σ : Type} : Fields ρ σ → Mode → Nat → Items → Except ReadError (ρ × Items)
  | .nil, _, _, items => .ok ((), items)
  | .cons _ format absence _ rest, mode, depth, items =>
    match items with
    | .item head tail => do
      let a ← format.read mode depth head
      let (r, left) ← rest.readItems mode depth tail
      return ((a, r), left)
    | .close outcome => do
      met outcome
      match absence with
      | .anywhere a =>
        let (r, left) ← rest.readItems mode depth items
        return ((a, r), left)
      | _ => .error .mismatch

def Variants.readItems {α : Type} : Variants α → Nat → Items → Except ReadError α
  | .nil, _, _ => .error .mismatch
  | .cons _ fields build _ _, 0, items => do
    let (r, rest) ← fields.readItems .buffered 0 items
    endOfRecord .buffered rest
    return build r
  | .cons _ _ _ _ rest, i + 1, items => rest.readItems i items

/-- The record of the variant in place `i`, from the members beside its tag. -/
def Variants.readMembers {α : Type} : Variants α → Nat → Members → Except ReadError α
  | .nil, _, _ => .error .mismatch
  | .cons _ fields build _ _, 0, members => do
    let s ← Data.readMembers (fields.slot .buffered 0) fields.unmet members
    return build (← fields.finish s)
  | .cons _ _ _ _ rest, i + 1, members => rest.readMembers i members

end

mutual

def Format.write {α : Type} : Format α → α → Value
  | .flag, b => .flag b
  | .word _, n => .whole n
  | .text, s => .text s
  | .option format, a =>
    match a with
    | none => .null
    | some a => format.write a
  | .list format, as => .list (as.map format.write)
  | .keys, s => .list (s.keys.map .text)
  | .map format, t => .object (t.entries.map fun e => (e.1, format.write e.2))
  | .named _ name, a => .text (name a)
  | .record fields _ parts, a => .object (fields.write (parts a))
  | .tagged tag variants, a => .object (variants.write tag a)
  | .via format _ parts, b => format.write (parts b)

def Fields.write {ρ σ : Type} : Fields ρ σ → ρ → List (String × Value)
  | .nil, _ => []
  | .cons name format _ hidden rest, (a, r) =>
    if hidden a then rest.write r else (name, format.write a) :: rest.write r

def Variants.write {α : Type} : Variants α → String → α → List (String × Value)
  | .nil, _, _ => []
  | .cons name fields _ parts rest, tag, a =>
    match parts a with
    | some r => (tag, .text name) :: fields.write r
    | none => rest.write tag a

end

end BuildDispatch.Data
