import BuildDispatch.Data.Document

/-! The tables of a TOML text, and the rules under which keys and headers may add to them. -/
namespace BuildDispatch.Toml

open Data (Document Items Members)

/-- How a table came to be, which decides what may still be added to it. -/
inductive Standing where
  /-- Written between braces. -/
  | closed
  /-- Named by a header of its own. -/
  | declared
  /-- On the way to a table that a header names. -/
  | implied
  /-- On the way to the last part of a key. -/
  | dotted
  deriving DecidableEq

inductive Node where
  | leaf (document : Document)
  | list (items : List Node)
  | table (standing : Standing) (entries : List (String × Node))
  /-- Tables under one header, of which the last is added to. -/
  | tables (earlier : List (List (String × Node))) (last : List (String × Node))

abbrev Branch := List (String × Node)

namespace Branch

def get? (b : Branch) (key : String) : Option Node :=
  (List.find? (fun e => e.1 = key) b).map fun e => e.2

def without (b : Branch) (key : String) : Branch := List.filter (fun e => e.1 ≠ key) b

/-- Changes the node under a key in its place, or adds one at the end. -/
def alter (key : String) (change : Option Node → Option Node) : Branch → Option Branch
  | [] => (change none).map fun n => [(key, n)]
  | (k, n) :: rest =>
    if k = key then (change (some n)).map fun n => (k, n) :: rest
    else (alter key change rest).map ((k, n) :: ·)

/--
Binds a dotted key. Its parts lead through tables that no header names and no braces close, and
those that are not there yet are made. The last part goes into a table made by dotted keys, and
nothing is bound twice.
-/
def define (node : Node) : (path : List String) → (key : String) → Branch → Option Branch
  | [], key, b =>
    b.alter key fun
      | none => some node
      | some _ => none
  | part :: path, key, b =>
    b.alter part fun
      | none => (define node path key []).map (.table .dotted)
      | some (.table .dotted inner) => (define node path key inner).map (.table .dotted)
      | some (.table .implied inner) =>
        if path.isEmpty then none else (define node path key inner).map (.table .implied)
      | some (.tables earlier last) =>
        if path.isEmpty then none else (define node path key last).map (.tables earlier)
      | some _ => none

/-- Follows the parts of a header, making the tables on the way that are not there yet. -/
def follow (change : Branch → Option Branch) : (path : List String) → Branch → Option Branch
  | [], b => change b
  | part :: path, b =>
    b.alter part fun
      | none => (follow change path []).map (.table .implied)
      | some (.table .closed _) => none
      | some (.table standing inner) => (follow change path inner).map (.table standing)
      | some (.tables earlier last) => (follow change path last).map (.tables earlier)
      | some _ => none

/--
Declares a table. One that was only implied keeps what it holds, and moves to the end; any other
thing under the key is in the way.
-/
def declare (fill : Branch → Option Branch) (key : String) (b : Branch) : Option Branch :=
  match b.get? key with
  | none => (fill []).map fun inner => b ++ [(key, .table .declared inner)]
  | some (.table .implied inner) =>
    (fill inner).map fun inner => b.without key ++ [(key, .table .declared inner)]
  | some _ => none

def append (fill : Branch → Option Branch) (key : String) (b : Branch) : Option Branch :=
  b.alter key fun
    | none => (fill []).map (.tables [])
    | some (.tables earlier last) => (fill []).map (.tables (earlier ++ [last]))
    | some _ => none

end Branch

mutual

def Node.document : Node → Document
  | .leaf d => d
  | .list items => .list (itemsOf items)
  | .table _ entries => .object (membersOf entries)
  | .tables earlier last => .list (elementsOf (.object (membersOf last)) earlier)

def itemsOf : List Node → Items
  | [] => .close (.ok ())
  | n :: rest => .item n.document (itemsOf rest)

def membersOf : List (String × Node) → Members
  | [] => .close (.ok ())
  | (key, n) :: rest => .member (.ofString key) (.ok ()) n.document (membersOf rest)

def elementsOf (last : Document) : List (List (String × Node)) → Items
  | [] => .item last (.close (.ok ()))
  | b :: rest => .item (.object (membersOf b)) (elementsOf last rest)

end

end BuildDispatch.Toml
