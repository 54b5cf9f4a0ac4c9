/-! Paths of files: how they are joined, and what they lead to. -/
namespace BuildDispatch.Path

def isAbsolute (path : String) : Bool := path.toList.head? = some '/'

/-- A path below another. An absolute path stands for itself. -/
def join (base part : String) : String :=
  if isAbsolute part || base = "" then part
  else if base.toList.getLast? = some '/' then base ++ part
  else base ++ "/" ++ part

/-- The parts between slashes, of which empty ones and single points say nothing. -/
def parts (path : String) : List String :=
  (path.splitOn "/").filter fun part => part ≠ "" && part ≠ "."

/-- The directories that lead to a path, from the root: a double point goes back by one. -/
def resolve (path : String) : List String :=
  (parts path).foldl (fun dirs part => if part = ".." then dirs.dropLast else dirs ++ [part]) []

/-- Whether a path leads into a directory, and not to the directory itself. -/
def isBelow (path directory : String) : Bool :=
  let dir := resolve directory
  let there := resolve path
  dir.isPrefixOf there && dir.length < there.length

def untrailed : List Char → List Char
  | '/' :: rest => untrailed rest
  | '.' :: '/' :: rest => untrailed rest
  | rest => rest

def cut (path : String) : List Char × List Char :=
  let back := untrailed path.toList.reverse
  ((back.dropWhile (· ≠ '/')).reverse, (back.takeWhile (· ≠ '/')).reverse)

/-- The name at the end of a path, unless it leads to a root or goes back. -/
def fileName? (path : String) : Option String :=
  let name := String.ofList (cut path).2
  if name = "" || name = "." || name = ".." then none else some name

/-- A name up to its last point, and what follows. A point at its start does not count. -/
def cutName (name : String) : List Char × Option (List Char) :=
  let back := name.toList.reverse
  match back.dropWhile (· ≠ '.') with
  | '.' :: c :: stem => ((c :: stem).reverse, some (back.takeWhile (· ≠ '.')).reverse)
  | _ => (name.toList, none)

def extension? (path : String) : Option String :=
  ((fileName? path).bind fun name => (cutName name).2).map String.ofList

/-- A path with another extension, if it has a file's name at its end. -/
def withExtension (path extension : String) : String :=
  match fileName? path with
  | none => path
  | some name =>
    let stem := (cut path).1 ++ (cutName name).1
    String.ofList (if extension = "" then stem else stem ++ '.' :: extension.toList)

def parent? (path : String) : Option String :=
  let kept := parts path
  if kept.isEmpty then none
  else
    let above := String.intercalate "/" kept.dropLast
    some (if isAbsolute path then "/" ++ above else above)

end BuildDispatch.Path
