/-! Finite maps kept in the order of their keys; two tables with the same look-ups are equal. -/
namespace BuildDispatch

variable {κ ν : Type} [Ord κ]

namespace Entries

def lookup [DecidableEq κ] (k : κ) : List (κ × ν) → Option ν
  | [] => none
  | (k', v) :: rest => if k = k' then some v else lookup k rest

/-- The entries with `k` bound to `v`, in its place among the keys. -/
def insert (k : κ) (v : ν) : List (κ × ν) → List (κ × ν)
  | [] => [(k, v)]
  | (k', v') :: rest =>
    match compare k k' with
    | .lt => (k, v) :: (k', v') :: rest
    | .eq => (k, v) :: rest
    | .gt => (k', v') :: insert k v rest

/-- Keys strictly increase. -/
abbrev Sorted (entries : List (κ × ν)) : Prop :=
  entries.Pairwise fun a b => compare a.1 b.1 = .lt

theorem mem_insert {k : κ} {v : ν} {entries : List (κ × ν)} {e : κ × ν}
    (h : e ∈ insert k v entries) : e = (k, v) ∨ e ∈ entries := by
  induction entries with
  | nil => simpa [insert] using h
  | cons head rest ih =>
    obtain ⟨k', v'⟩ := head
    unfold insert at h
    split at h
    · simpa using h
    · rcases List.mem_cons.1 h with rfl | h
      · exact .inl rfl
      · exact .inr (List.mem_cons_of_mem _ h)
    · rcases List.mem_cons.1 h with rfl | h
      · exact .inr List.mem_cons_self
      · exact (ih h).imp id (List.mem_cons_of_mem _)

theorem sorted_insert [Std.TransOrd κ] [Std.LawfulEqOrd κ] (k : κ) (v : ν)
    {entries : List (κ × ν)} (h : Sorted entries) : Sorted (insert k v entries) := by
  induction entries with
  | nil => simp [insert]
  | cons head rest ih =>
    obtain ⟨k', v'⟩ := head
    have below : ∀ e ∈ rest, compare k' e.1 = .lt := (List.pairwise_cons.1 h).1
    unfold insert
    split
    case h_1 hlt =>
      refine List.pairwise_cons.2 ⟨fun e he => ?_, h⟩
      rcases List.mem_cons.1 he with rfl | he
      · exact hlt
      · exact Std.TransCmp.lt_trans hlt (below e he)
    case h_2 heq =>
      cases Std.LawfulEqCmp.eq_of_compare heq
      exact List.pairwise_cons.2 ⟨below, (List.pairwise_cons.1 h).2⟩
    case h_3 hgt =>
      refine List.pairwise_cons.2 ⟨fun e he => ?_, ih (List.pairwise_cons.1 h).2⟩
      rcases mem_insert he with rfl | he
      · exact Std.OrientedCmp.gt_iff_lt.1 hgt
      · exact below e he

theorem lookup_insert [DecidableEq κ] [Std.LawfulEqOrd κ] (k q : κ) (v : ν)
    (entries : List (κ × ν)) :
    lookup q (insert k v entries) = if q = k then some v else lookup q entries := by
  induction entries with
  | nil => by_cases hq : q = k <;> simp [insert, lookup, hq]
  | cons head rest ih =>
    obtain ⟨k', v'⟩ := head
    unfold insert
    split
    case h_1 => by_cases hq : q = k <;> simp_all [lookup]
    case h_2 heq =>
      cases Std.LawfulEqCmp.eq_of_compare heq
      by_cases hq : q = k <;> simp [lookup, hq]
    case h_3 hgt =>
      by_cases hq : q = k' <;> by_cases hk : q = k <;> simp_all [lookup]

end Entries

/-- A finite map: entries whose keys strictly increase. -/
structure Table (κ ν : Type) [Ord κ] where
  entries : List (κ × ν)
  sorted : Entries.Sorted entries

/-- A finite set, as a table without values. -/
abbrev Keys (κ : Type) [Ord κ] := Table κ Unit

namespace Table

instance [DecidableEq κ] [DecidableEq ν] : DecidableEq (Table κ ν) := fun a b =>
  decidable_of_iff (a.entries = b.entries) (by cases a; cases b; simp)

def empty : Table κ ν := ⟨[], .nil⟩

instance : EmptyCollection (Table κ ν) := ⟨empty⟩
instance : Inhabited (Table κ ν) := ⟨empty⟩

def get? [DecidableEq κ] (t : Table κ ν) (k : κ) : Option ν := Entries.lookup k t.entries

def contains [DecidableEq κ] (t : Table κ ν) (k : κ) : Bool := (t.get? k).isSome

def keys (t : Table κ ν) : List κ := t.entries.map (·.1)

def values (t : Table κ ν) : List ν := t.entries.map (·.2)

def size (t : Table κ ν) : Nat := t.entries.length

def isEmpty (t : Table κ ν) : Bool := t.entries.isEmpty

def erase [DecidableEq κ] (t : Table κ ν) (k : κ) : Table κ ν where
  entries := t.entries.filter (·.1 ≠ k)
  sorted := t.sorted.filter _

def within [DecidableEq κ] {ν' : Type} (s : Table κ ν) (t : Table κ ν') : Bool :=
  s.keys.all t.contains

variable [Std.TransOrd κ] [Std.LawfulEqOrd κ]

def insert (t : Table κ ν) (k : κ) (v : ν) : Table κ ν where
  entries := Entries.insert k v t.entries
  sorted := Entries.sorted_insert k v t.sorted

/-- A later pair replaces an earlier one of the same key. -/
def insertAll (t : Table κ ν) (pairs : List (κ × ν)) : Table κ ν :=
  pairs.foldl (fun t e => t.insert e.1 e.2) t

def ofList (pairs : List (κ × ν)) : Table κ ν := empty.insertAll pairs

def ofKeys (ks : List κ) : Keys κ := ofList (ks.map (·, ()))

variable [DecidableEq κ]

omit [Std.TransOrd κ] [Std.LawfulEqOrd κ] in
@[simp] theorem get?_empty (k : κ) : (∅ : Table κ ν).get? k = none := rfl

theorem get?_insert (t : Table κ ν) (k q : κ) (v : ν) :
    (t.insert k v).get? q = if q = k then some v else t.get? q :=
  Entries.lookup_insert k q v t.entries

@[simp] theorem get?_insert_self (t : Table κ ν) (k : κ) (v : ν) :
    (t.insert k v).get? k = some v := by simp [get?_insert]

theorem get?_insert_of_ne (t : Table κ ν) {k q : κ} (v : ν) (h : q ≠ k) :
    (t.insert k v).get? q = t.get? q := by simp [get?_insert, h]

end Table

end BuildDispatch
