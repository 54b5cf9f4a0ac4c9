import BuildDispatch.Data.Format
import BuildDispatch.Json.Document
import BuildDispatch.Text.Decimal

/-! Values written as compact JSON, and read back from it. -/
namespace BuildDispatch.Json

open Data

def word (s : String) : Bytes := Bytes.ofString s

mutual

def render : Value → Bytes
  | .null => word "null"
  | .flag true => word "true"
  | .flag false => word "false"
  | .whole n => word (Text.decimal n.toNat)
  | .text s => quote s
  | .list [] => word "[]"
  | .list (v :: rest) => 0x5B :: render v ++ renderItems rest
  | .object [] => word "\x7b\x7d"
  | .object ((k, v) :: rest) => 0x7B :: quote k ++ 0x3A :: render v ++ renderMembers rest

def renderItems : List Value → Bytes
  | [] => [0x5D]
  | v :: rest => 0x2C :: render v ++ renderItems rest

def renderMembers : List (String × Value) → Bytes
  | [] => [0x7D]
  | (k, v) :: rest => 0x2C :: quote k ++ 0x3A :: render v ++ renderMembers rest

end

/-- How many levels of lists and objects a text may nest, and one more. -/
def depthLimit : Nat := 128

variable {α : Type}

def encode (format : Format α) (a : α) : Bytes := render (format.write a)

def decode (format : Format α) (s : Bytes) : Except ReadError α :=
  match lay s with
  | (d, after) => do
    let a ← format.read .direct depthLimit d
    met after
    return a

end BuildDispatch.Json
