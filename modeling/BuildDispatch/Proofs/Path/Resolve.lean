import BuildDispatch.Path
import BuildDispatch.Proofs.Text.Split

/-!
Where joined paths lead. A relative path leads on from the directory before it
(`Path.resolve_join_join`), and all that counts of it is how far it leads back and which names it
leads down then (`Path.follow_eq_lead`).
-/
namespace BuildDispatch.Path

theorem parts_eq (path : String) : parts path =
    ((path.toList.splitOn '/').map String.ofList).filter fun part => part ≠ "" && part ≠ "." :=
  congrArg (List.filter _) (Text.splitOn_singleton path '/')

theorem parts_empty : parts "" = [] := by
  rw [parts_eq]
  rfl

theorem parts_append (front back : String) :
    parts (front ++ "/" ++ back) = parts front ++ parts back := by
  have split : (front ++ "/" ++ back).toList.splitOn '/' =
      front.toList.splitOn '/' ++ back.toList.splitOn '/' := by
    rw [String.append_assoc, String.toList_append, String.toList_append]
    exact List.splitOn_append_cons_self _ _
  rw [parts_eq, parts_eq, parts_eq, split, List.map_append, List.filter_append]

section Join

variable {base part : String} (relative : isAbsolute part = false)
include relative

theorem parts_join : parts (join base part) = parts base ++ parts part := by
  unfold join
  rw [relative, Bool.false_or]
  split_ifs with empty trailed
  · rw [of_decide_eq_true empty, parts_empty, List.nil_append]
  · obtain ⟨front, ends⟩ := List.getLast?_eq_some_iff.1 trailed
    have text : base = String.ofList front ++ "/" ++ "" := by
      rw [← String.ofList_toList (s := base), ends]
      simp
    have same : parts base = parts (String.ofList front) := by
      rw [text, parts_append, parts_empty, List.append_nil]
    rw [same, ← parts_append, text]
    simp
  · exact parts_append base part

theorem isAbsolute_join : isAbsolute (join base part) = isAbsolute base := by
  by_cases empty : base = ""
  · have whole : join base part = part := by simp [join, empty]
    rw [whole, relative, empty]
    rfl
  · obtain ⟨first, rest, text⟩ : ∃ first rest, base.toList = first :: rest :=
      List.exists_cons_of_ne_nil (by simpa using empty)
    unfold join
    rw [relative, Bool.false_or, if_neg (by simpa using empty)]
    split_ifs
    · simp [isAbsolute, text]
    · simp [isAbsolute, text]

end Join

/-- One part on the way: a double point leads back by one directory, and a name down into one. -/
def enter (dirs : List String) (part : String) : List String :=
  if part = ".." then dirs.dropLast else dirs ++ [part]

def follow (dirs : List String) (path : String) : List String := (parts path).foldl enter dirs

theorem resolve_eq_follow (path : String) : resolve path = follow [] path := rfl

/-- Without double points a path leads down only. -/
theorem follow_of_names {path : String} (names : ".." ∉ parts path) (dirs : List String) :
    follow dirs path = dirs ++ parts path := by
  unfold follow
  generalize parts path = list at names
  induction list generalizing dirs with
  | nil => exact (List.append_nil dirs).symm
  | cons name rest ih =>
    have plain : name ≠ ".." := by
      rintro rfl
      exact names List.mem_cons_self
    have others : ".." ∉ rest := fun up => names (List.mem_cons_of_mem _ up)
    rw [List.foldl_cons, enter, if_neg plain, ih (dirs ++ [name]) others, List.append_assoc]
    rfl

/-- A relative path leads on from where the path before it has led, wherever that one starts. -/
theorem resolve_join_join {part : String} (relative : isAbsolute part = false)
    (here base : String) :
    resolve (join here (join base part)) = follow (resolve (join here base)) part := by
  have start : isAbsolute (join base part) = isAbsolute base := isAbsolute_join relative
  cases rooted : isAbsolute base with
  | true =>
    have front : join here base = base := by simp [join, rooted]
    have whole : join here (join base part) = join base part := by
      rw [join, start, rooted]
      rfl
    rw [front, whole, resolve_eq_follow, follow, parts_join relative, List.foldl_append]
    rfl
  | false =>
    rw [resolve_eq_follow, follow, parts_join (start.trans rooted), parts_join relative,
      ← List.append_assoc, List.foldl_append, ← parts_join rooted]
    rfl

theorem isBelow_iff {path directory : String} : isBelow path directory = true ↔
    ∃ more, more ≠ [] ∧ resolve path = resolve directory ++ more := by
  unfold isBelow
  rw [Bool.and_eq_true, List.isPrefixOf_iff_prefix, decide_eq_true_iff]
  constructor
  · rintro ⟨⟨more, whole⟩, longer⟩
    refine ⟨more, ?_, whole.symm⟩
    rintro rfl
    rw [← whole, List.append_nil] at longer
    exact Nat.lt_irrefl _ longer
  · rintro ⟨more, some, whole⟩
    rw [whole, List.length_append]
    exact ⟨List.prefix_append _ _, Nat.lt_add_of_pos_right (List.length_pos_of_ne_nil some)⟩

/-- What a relative path comes to: back by some directories, and then down by some names. -/
structure Route where
  back : Nat
  down : List String
  deriving DecidableEq

namespace Route

/-- The route with one more part. A double point takes the last name back, if there is one. -/
def turn (r : Route) (part : String) : Route :=
  if part = ".." then
    if r.down = [] then { r with back := r.back + 1 } else { r with down := r.down.dropLast }
  else { r with down := r.down ++ [part] }

/-- Where the route leads from a directory. Nothing lies above the root. -/
def lead (r : Route) (dirs : List String) : List String :=
  dirs.take (dirs.length - r.back) ++ r.down

theorem lead_turn (r : Route) (dirs : List String) (part : String) :
    (r.turn part).lead dirs = enter (r.lead dirs) part := by
  unfold turn enter lead
  split_ifs with up level
  · rw [level, List.append_nil, List.append_nil, List.dropLast_eq_take, List.take_take,
      List.length_take]
    dsimp only
    congr 1
    omega
  · rw [List.dropLast_append_of_ne_nil level]
  · rw [List.append_assoc]

end Route

def route (path : String) : Route := (parts path).foldl Route.turn ⟨0, []⟩

theorem follow_eq_lead (dirs : List String) (path : String) :
    follow dirs path = (route path).lead dirs := by
  have start : (Route.mk 0 []).lead dirs = dirs := by simp [Route.lead]
  calc (parts path).foldl enter dirs
      = (parts path).foldl enter ((Route.mk 0 []).lead dirs) := by rw [start]
    _ = (route path).lead dirs :=
      List.foldl_hom (fun r : Route => r.lead dirs) fun r part => (r.lead_turn dirs part).symm

end BuildDispatch.Path
