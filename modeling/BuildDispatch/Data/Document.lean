/-!
Documents as they are met in reading order. A text is laid out as a tree up to the place where it
stops being well formed, and each fault stays where it was met, so that a typed reader meets a fault
of the text and a fault of the data in the order in which they stand.
-/
namespace BuildDispatch.Data

/-- Why a text stops being well formed: it ends too early, or it goes wrong. -/
inductive Fault where
  | ended
  | malformed
  deriving DecidableEq, Repr

/-- A number, as far as a field can tell: a whole one of 64 bits, or another one as written. -/
inductive Number where
  | whole (n : UInt64)
  | real (lexeme : String)
  deriving DecidableEq, Repr

mutual

/--
One value. A number or a text that is passed over is held to less than one that is read; `pass` is
the outcome of passing over it.
-/
inductive Document where
  /-- No value starts here. -/
  | absent (why : Fault)
  /-- A truth value, or nothing. -/
  | literal (value : Except Fault (Option Bool))
  | number (value : Except Fault Number) (pass : Except Fault Unit)
  | text (value : Except Fault String) (pass : Except Fault Unit)
  | list (items : Items)
  | object (members : Members)

/-- The elements of a list, up to its end or to the place where it stops. -/
inductive Items where
  | close (outcome : Except Fault Unit)
  | item (head : Document) (rest : Items)

inductive Members where
  | close (outcome : Except Fault Unit)
  | member (key : Document) (colon : Except Fault Unit) (value : Document) (rest : Members)

end

instance : Inhabited Document := ⟨.absent .ended⟩
instance : Inhabited Items := ⟨.close (.ok ())⟩
instance : Inhabited Members := ⟨.close (.ok ())⟩

namespace Document

def ofString (s : String) : Document := .text (.ok s) (.ok ())

def key : Document → Except Fault String
  | .text value _ => value
  | .absent why => .error why
  | _ => .error .malformed

def passKey : Document → Except Fault Unit
  | .text _ pass => pass
  | .absent why => .error why
  | _ => .error .malformed

end Document

mutual

/-- Passes over a value without reading it, to any depth. -/
def Document.skip : Document → Except Fault Unit
  | .absent why => .error why
  | .literal value => value.map fun _ => ()
  | .number _ pass => pass
  | .text _ pass => pass
  | .list items => items.skip
  | .object members => members.skip

def Items.skip : Items → Except Fault Unit
  | .close outcome => outcome
  | .item head rest => do
    head.skip
    rest.skip

def Members.skip : Members → Except Fault Unit
  | .close outcome => outcome
  | .member key colon value rest => do
    key.passKey
    colon
    value.skip
    rest.skip

end

mutual

/-- Reads a whole value, of which lists and objects may nest fewer than `depth` levels deep. -/
def Document.absorb (depth : Nat) : Document → Except Fault Unit
  | .absent why => .error why
  | .literal value => value.map fun _ => ()
  | .number value _ => value.map fun _ => ()
  | .text value _ => value.map fun _ => ()
  | .list items => if depth ≤ 1 then .error .malformed else items.absorb (depth - 1)
  | .object members => if depth ≤ 1 then .error .malformed else members.absorb (depth - 1)

def Items.absorb (depth : Nat) : Items → Except Fault Unit
  | .close outcome => outcome
  | .item head rest => do
    head.absorb depth
    rest.absorb depth

def Members.absorb (depth : Nat) : Members → Except Fault Unit
  | .close outcome => outcome
  | .member key colon value rest => do
    let _ ← key.key
    colon
    value.absorb depth
    rest.absorb depth

end

def Members.without (name : String) : Members → Members
  | .close outcome => .close outcome
  | .member key colon value rest =>
    match key.key with
    | .ok found =>
      if found = name then rest.without name else .member key colon value (rest.without name)
    | .error _ => .member key colon value (rest.without name)

def Items.ofList : List Document → Items
  | [] => .close (.ok ())
  | d :: rest => .item d (ofList rest)

def Members.ofList : List (String × Document) → Members
  | [] => .close (.ok ())
  | (k, d) :: rest => .member (.ofString k) (.ok ()) d (ofList rest)

end BuildDispatch.Data
