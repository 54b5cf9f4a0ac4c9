import BuildDispatch.Bytes
import BuildDispatch.Text.Invisible

/-!
Values shown for inspection: texts in quotes with every invisible character escaped, records and
maps with their parts, on one line or indented over several.
-/
namespace BuildDispatch.Text

def hexDigits (n : Nat) : List Char :=
  if n < 16 then [Bytes.hexDigit n] else hexDigits (n / 16) ++ [Bytes.hexDigit (n % 16)]

def inspectChar (c : Char) : List Char :=
  if c = '"' then ['\\', '"']
  else if c = '\\' then ['\\', '\\']
  else if c = '\n' then ['\\', 'n']
  else if c = '\r' then ['\\', 'r']
  else if c = '\t' then ['\\', 't']
  else if c.toNat = 0 then ['\\', '0']
  else if isInvisible c then ['\\', 'u', '\x7b'] ++ hexDigits c.toNat ++ ['\x7d']
  else [c]

def inspectText (s : String) : String :=
  String.ofList ('"' :: s.toList.flatMap inspectChar ++ ['"'])

def inspectOptional : Option String → String
  | some s => s!"Some({inspectText s})"
  | none => "None"

inductive Shape where
  | word (s : String)
  | text (s : String)
  | record (name : String) (fields : List (String × Shape))
  | map (entries : List (String × Shape))

/-- Every line but the first, four blanks further in. -/
def indent (s : String) : String :=
  String.ofList (s.toList.flatMap fun c => if c = '\n' then '\n' :: List.replicate 4 ' ' else [c])

mutual

def Shape.compact : Shape → String
  | .word s => s
  | .text s => inspectText s
  | .record name fields => name ++ " \x7b " ++ compactFields fields ++ " \x7d"
  | .map entries => "\x7b" ++ compactEntries entries ++ "\x7d"

def compactFields : List (String × Shape) → String
  | [] => ""
  | [(name, v)] => name ++ ": " ++ v.compact
  | (name, v) :: rest => name ++ ": " ++ v.compact ++ ", " ++ compactFields rest

def compactEntries : List (String × Shape) → String
  | [] => ""
  | [(key, v)] => inspectText key ++ ": " ++ v.compact
  | (key, v) :: rest => inspectText key ++ ": " ++ v.compact ++ ", " ++ compactEntries rest

end

mutual

/-- A value over several lines, each part on its own. -/
def Shape.spread : Shape → String
  | .word s => s
  | .text s => inspectText s
  | .record name fields => name ++ " \x7b" ++ spreadFields fields ++ "\n\x7d"
  | .map [] => "\x7b\x7d"
  | .map (e :: entries) => "\x7b" ++ spreadEntries (e :: entries) ++ "\n\x7d"

def spreadFields : List (String × Shape) → String
  | [] => ""
  | (name, v) :: rest => indent ("\n" ++ name ++ ": " ++ v.spread ++ ",") ++ spreadFields rest

def spreadEntries : List (String × Shape) → String
  | [] => ""
  | (key, v) :: rest =>
    indent ("\n" ++ inspectText key ++ ": " ++ v.spread ++ ",") ++ spreadEntries rest

end

end BuildDispatch.Text
