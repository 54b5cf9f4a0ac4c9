import BuildDispatch.Bytes

/-! Blanks, line ends, comments and quoted texts of TOML. -/
namespace BuildDispatch.Toml

def isBlank (c : Char) : Bool := c = ' ' || c = '\t'

def skipBlanks (s : List Char) : List Char := s.dropWhile isBlank

/-- What may stand in a comment or, written as it is, in a text. -/
def isPlain (c : Char) : Bool := c = '\t' || 0x20 ≤ c.toNat && c.toNat ≠ 0x7F

/-- The rest of a text that starts with a line end. -/
def newline? : List Char → Option (List Char)
  | '\n' :: rest => some rest
  | '\r' :: '\n' :: rest => some rest
  | _ => none

/-- What follows the end of a line, before which a comment may stand. -/
def endLine (s : List Char) : Option (List Char) :=
  let s :=
    match skipBlanks s with
    | '#' :: rest => rest.dropWhile isPlain
    | other => other
  if s.isEmpty then some [] else newline? s

/-- What follows blanks, line ends and comments. A comment has to end. -/
def skipLines (inComment : Bool) : List Char → Option (List Char)
  | [] => if inComment then none else some []
  | '\n' :: rest => skipLines false rest
  | '\r' :: '\n' :: rest => skipLines false rest
  | c :: rest =>
    if inComment then if isPlain c then skipLines true rest else none
    else if isBlank c then skipLines false rest
    else if c = '#' then skipLines true rest
    else some (c :: rest)

def skipSpace : List Char → List Char
  | '\n' :: rest => skipSpace rest
  | '\r' :: '\n' :: rest => skipSpace rest
  | c :: rest => if isBlank c then skipSpace rest else c :: rest
  | [] => []

def hexDigit? (c : Char) : Option Nat :=
  if c.toNat < 0x80 then Bytes.hexValue? c.toNat.toUInt8 else none

def numbered (n : Nat) (s : List Char) : Option (Char × List Char) :=
  if s.length < n then none
  else
    match (s.take n).mapM hexDigit? with
    | some digits =>
      let value := digits.foldl (fun a d => a * 16 + d) 0
      if value.isValidChar then some (Char.ofNat value, s.drop n) else none
    | none => none

def escaped : List Char → Option (Char × List Char)
  | [] => none
  | c :: rest =>
    if c = 'b' then some ('\x08', rest)
    else if c = 't' then some ('\t', rest)
    else if c = 'n' then some ('\n', rest)
    else if c = 'f' then some ('\x0c', rest)
    else if c = 'r' then some ('\r', rest)
    else if c = '"' then some ('"', rest)
    else if c = '\\' then some ('\\', rest)
    else if c = 'u' then numbered 4 rest
    else if c = 'U' then numbered 8 rest
    else none

theorem newline?_length {s rest : List Char} (h : newline? s = some rest) :
    rest.length < s.length := by
  unfold newline? at h
  split at h
  · cases h
    exact Nat.lt_succ_self _
  · cases h
    exact Nat.lt_succ_of_lt (Nat.lt_succ_self _)
  · cases h

theorem skipSpace_length (s : List Char) : (skipSpace s).length ≤ s.length := by
  fun_induction skipSpace s <;> simp_all <;> omega

theorem skipBlanks_length (s : List Char) : (skipBlanks s).length ≤ s.length :=
  (List.dropWhile_sublist _).length_le

theorem numbered_length {n : Nat} {s rest : List Char} {c : Char}
    (h : numbered n s = some (c, rest)) : rest.length ≤ s.length := by
  unfold numbered at h
  split at h
  · cases h
  split at h
  · dsimp only at h
    split at h
    · simp only [Option.some.injEq, Prod.mk.injEq] at h
      simp [← h.2]
    · cases h
  · cases h

theorem escaped_length {s rest : List Char} {c : Char} (h : escaped s = some (c, rest)) :
    rest.length < s.length := by
  unfold escaped at h
  split at h
  · cases h
  · rename_i d tail
    have step (n : Nat) (h : numbered n tail = some (c, rest)) : rest.length < (d :: tail).length :=
      Nat.lt_succ_of_le (numbered_length h)
    iterate 7
      split at h
      · simp_all
    split at h
    · exact step 4 h
    split at h
    · exact step 8 h
    · cases h

/--
A text on one line, after its opening quote. Between double quotes a backslash starts an escape;
between single ones every character stands for itself.
-/
def readLine (quote : Char) (s : List Char) : Option (List Char × List Char) :=
  match s with
  | [] => none
  | c :: rest =>
    if c = quote then some ([], rest)
    else if c = '\\' ∧ quote = '"' then
      match h : escaped rest with
      | some (c, after) =>
        have : after.length < rest.length := escaped_length h
        (readLine quote after).map fun r => (c :: r.1, r.2)
      | none => none
    else if isPlain c then (readLine quote rest).map fun r => (c :: r.1, r.2)
    else none
termination_by s.length
decreasing_by all_goals simp only [List.length_cons]; omega

/--
A text over several lines, after its three opening quotes. It ends at three quotes, before which one
or two more belong to it. Between double quotes a backslash at the end of a line takes away the line
end and all blanks and lines that follow.
-/
def readLines (quote : Char) (s : List Char) : Option (List Char × List Char) :=
  match s with
  | [] => none
  | c :: rest =>
    if c = quote then
      match rest with
      | a :: b :: after =>
        if a = quote ∧ b = quote then
          let extra := (after.take 2).takeWhile (· = quote)
          some (extra, after.drop extra.length)
        else (readLines quote (a :: b :: after)).map fun r => (c :: r.1, r.2)
      | _ => none
    else if c = '\\' ∧ quote = '"' then
      match hn : newline? (skipBlanks rest) with
      | some after =>
        have : (skipSpace after).length < rest.length :=
          Nat.lt_of_le_of_lt (skipSpace_length _)
            (Nat.lt_of_lt_of_le (newline?_length hn) (skipBlanks_length _))
        readLines quote (skipSpace after)
      | none =>
        match h : escaped rest with
        | some (c, after) =>
          have : after.length < rest.length := escaped_length h
          (readLines quote after).map fun r => (c :: r.1, r.2)
        | none => none
    else
      match hn : newline? (c :: rest) with
      | some after =>
        have := newline?_length hn
        (readLines quote after).map fun r => ('\n' :: r.1, r.2)
      | none =>
        if isPlain c then (readLines quote rest).map fun r => (c :: r.1, r.2) else none
termination_by s.length
decreasing_by all_goals simp only [List.length_cons] at *; omega

/-- A line end right after the opening quotes is no part of the text. -/
def afterOpening (s : List Char) : List Char := (newline? s).getD s

def readQuoted : List Char → Option (String × List Char)
  | [] => none
  | quote :: s =>
    if quote = '"' ∨ quote = '\'' then
      let read :=
        match s with
        | a :: b :: rest =>
          if a = quote ∧ b = quote then readLines quote (afterOpening rest) else readLine quote s
        | _ => readLine quote s
      read.map fun r => (String.ofList r.1, r.2)
    else none

/-- What a key may hold without quotes. -/
def isBare (c : Char) : Bool := c.isAlphanum || c = '_' || c = '-'

/-- One part of a key: bare, or a quoted text on one line. -/
def readPart : List Char → Option (String × List Char)
  | [] => none
  | c :: rest =>
    if c = '"' ∨ c = '\'' then (readLine c rest).map fun r => (String.ofList r.1, r.2)
    else
      let part := (c :: rest).takeWhile isBare
      if part.isEmpty then none
      else some (String.ofList part, (c :: rest).dropWhile isBare)

/-- A key of at most `limit` parts, with points between them and blanks around each. -/
def readKey (limit : Nat) (s : List Char) : Option (List String × List Char) :=
  match limit with
  | 0 => none
  | limit + 1 => do
    let (part, s) ← readPart (skipBlanks s)
    match skipBlanks s with
    | '.' :: rest =>
      let (parts, s) ← readKey limit rest
      return (part :: parts, s)
    | s => return ([part], s)

end BuildDispatch.Toml
