import BuildDispatch.Table
import Mathlib.Data.List.Perm.Subperm

/-! What a table holds: its look-ups after a change, and its values up to their order. -/
namespace BuildDispatch

variable {κ ν : Type} [DecidableEq κ]

namespace Entries

theorem lookup_filter_ne (k q : κ) (entries : List (κ × ν)) :
    lookup q (entries.filter (·.1 ≠ k)) = if q = k then none else lookup q entries := by
  induction entries with
  | nil => simp [lookup]
  | cons head rest ih =>
    obtain ⟨k', v'⟩ := head
    by_cases hk : k' = k
    · rw [List.filter_cons_of_neg (by simpa using hk), ih]
      by_cases hq : q = k
      · simp [hq]
      · have hne : q ≠ k' := fun h => hq (h.trans hk)
        simp [lookup, hq, hne]
    · rw [List.filter_cons_of_pos (by simpa using hk)]
      by_cases hq : q = k'
      · have hne : q ≠ k := fun h => hk (hq.symm.trans h)
        simp [lookup, hq, hk]
      · simp only [lookup, if_neg hq, ih]

theorem mem_of_lookup {k : κ} {v : ν} {entries : List (κ × ν)} (h : lookup k entries = some v) :
    (k, v) ∈ entries := by
  induction entries with
  | nil => simp [lookup] at h
  | cons head rest ih =>
    obtain ⟨k', v'⟩ := head
    unfold lookup at h
    split at h
    case isTrue hk =>
      rw [hk, Option.some.inj h]
      exact List.mem_cons_self
    case isFalse => exact List.mem_cons_of_mem _ (ih h)

theorem lookup_eq_none {k : κ} {entries : List (κ × ν)} :
    lookup k entries = none ↔ ∀ e ∈ entries, e.1 ≠ k := by
  induction entries with
  | nil => simp [lookup]
  | cons head rest ih =>
    obtain ⟨k', v'⟩ := head
    by_cases hk : k = k'
    · simp [lookup, hk]
    · have hne : k' ≠ k := fun h => hk h.symm
      simp [lookup, hk, hne, ih]

variable [Ord κ] [Std.LawfulEqOrd κ]

/-- A new key adds one entry. -/
theorem insert_perm_of_fresh {k : κ} (v : ν) {entries : List (κ × ν)}
    (h : lookup k entries = none) : (insert k v entries).Perm ((k, v) :: entries) := by
  induction entries with
  | nil => exact .refl _
  | cons head rest ih =>
    obtain ⟨k', v'⟩ := head
    have hne := lookup_eq_none.1 h
    have hr : lookup k rest = none :=
      lookup_eq_none.2 fun e he => hne e (List.mem_cons_of_mem _ he)
    unfold insert
    split
    case h_1 => exact .refl _
    case h_2 heq => exact absurd (Std.LawfulEqCmp.eq_of_compare heq).symm (hne _ List.mem_cons_self)
    case h_3 => exact ((ih hr).cons _).trans (.swap _ _ _)

theorem filter_ne_insert (k : κ) (v : ν) (entries : List (κ × ν)) :
    (insert k v entries).filter (·.1 ≠ k) = entries.filter (·.1 ≠ k) := by
  induction entries with
  | nil => simp [insert]
  | cons head rest ih =>
    obtain ⟨k', v'⟩ := head
    unfold insert
    split
    case h_1 => simp
    case h_2 heq =>
      cases Std.LawfulEqCmp.eq_of_compare heq
      simp
    case h_3 => rw [List.filter_cons, List.filter_cons, ih]

variable [Std.TransOrd κ]

omit [DecidableEq κ] [Std.LawfulEqOrd κ] in
theorem ne_of_compare_lt {a b : κ} (h : compare a b = .lt) : a ≠ b := by
  rintro rfl
  have he : compare a a = .eq := Std.ReflCmp.compare_self
  rw [he] at h
  cases h

omit [Std.LawfulEqOrd κ] in
theorem lookup_of_mem {k : κ} {v : ν} {entries : List (κ × ν)} (hs : Sorted entries)
    (h : (k, v) ∈ entries) : lookup k entries = some v := by
  induction entries with
  | nil => simp at h
  | cons head rest ih =>
    obtain ⟨k', v'⟩ := head
    obtain ⟨below, hs⟩ := List.pairwise_cons.1 hs
    rcases List.mem_cons.1 h with h | h
    · cases h
      simp [lookup]
    · have hne : k ≠ k' := (ne_of_compare_lt (below _ h)).symm
      rw [lookup, if_neg hne]
      exact ih hs h

omit [Std.LawfulEqOrd κ] in
theorem lookup_filter {entries : List (κ × ν)} (hs : Sorted entries) (p : κ × ν → Bool) (k : κ) :
    lookup k (entries.filter p) = (lookup k entries).filter fun v => p (k, v) := by
  induction entries with
  | nil => rfl
  | cons head rest ih =>
    obtain ⟨k', v'⟩ := head
    obtain ⟨below, hs⟩ := List.pairwise_cons.1 hs
    by_cases hk : k = k'
    · subst hk
      have absent : lookup k (rest.filter p) = none :=
        lookup_eq_none.2 fun e he => (ne_of_compare_lt (below _ (List.mem_filter.1 he).1)).symm
      cases hp : p (k, v') with
      | false => simp [Option.filter, hp, lookup, absent]
      | true => simp [Option.filter, hp, lookup]
    · cases hp : p (k', v') with
      | false => simp [hp, lookup, hk, ih hs]
      | true => simp [hp, lookup, hk, ih hs]

omit [DecidableEq κ] [Std.LawfulEqOrd κ] in
theorem nodup_keys {entries : List (κ × ν)} (hs : Sorted entries) :
    (entries.map Prod.fst).Nodup :=
  List.pairwise_map.2 (hs.imp ne_of_compare_lt)

/-- A key that is bound already changes one entry. -/
theorem insert_perm_of_bound {k : κ} {v old : ν} {entries : List (κ × ν)} (hs : Sorted entries)
    (h : lookup k entries = some old) :
    ((k, old) :: insert k v entries).Perm ((k, v) :: entries) := by
  induction entries with
  | nil => simp [lookup] at h
  | cons head rest ih =>
    obtain ⟨k', v'⟩ := head
    obtain ⟨below, hs⟩ := List.pairwise_cons.1 hs
    unfold insert
    split
    case h_1 hlt =>
      -- The key would stand before all others, so that it is not bound.
      rw [lookup, if_neg (ne_of_compare_lt hlt)] at h
      have hgt : compare k' k = .lt := below _ (mem_of_lookup h)
      exact absurd rfl (ne_of_compare_lt (Std.TransCmp.lt_trans hlt hgt))
    case h_2 heq =>
      cases Std.LawfulEqCmp.eq_of_compare heq
      rw [lookup, if_pos rfl] at h
      cases h
      exact .swap _ _ _
    case h_3 hgt =>
      have hne : k ≠ k' := (ne_of_compare_lt (Std.OrientedCmp.gt_iff_lt.1 hgt)).symm
      rw [lookup, if_neg hne] at h
      calc ((k, old) :: (k', v') :: insert k v rest).Perm
            ((k', v') :: (k, old) :: insert k v rest) := .swap _ _ _
        _ |>.Perm ((k', v') :: (k, v) :: rest) := (ih hs h).cons _
        _ |>.Perm ((k, v) :: (k', v') :: rest) := .swap _ _ _

end Entries

namespace Table

variable [Ord κ]

theorem get?_erase (t : Table κ ν) (k q : κ) :
    (t.erase k).get? q = if q = k then none else t.get? q :=
  Entries.lookup_filter_ne k q t.entries

theorem erase_eq_self {t : Table κ ν} {k : κ} (h : t.get? k = none) : t.erase k = t := by
  have hne := Entries.lookup_eq_none.1 h
  have he : t.entries.filter (·.1 ≠ k) = t.entries :=
    List.filter_eq_self.2 fun e he => by simpa using hne e he
  cases t
  simpa [erase] using he

theorem erase_comm (t : Table κ ν) (k q : κ) : (t.erase k).erase q = (t.erase q).erase k := by
  unfold erase
  simp only [List.filter_filter, Bool.and_comm]

theorem contains_erase (t : Table κ ν) (k q : κ) :
    (t.erase k).contains q = (q ≠ k && t.contains q) := by
  unfold contains
  rw [get?_erase]
  by_cases hq : q = k <;> simp [hq]

variable [Std.TransOrd κ]

theorem mem_keys {t : Table κ ν} {k : κ} : k ∈ t.keys ↔ t.contains k = true := by
  unfold keys contains get?
  constructor
  · intro h
    obtain ⟨e, he, rfl⟩ := List.mem_map.1 h
    rw [Entries.lookup_of_mem t.sorted he]
    rfl
  · intro h
    obtain ⟨v, hv⟩ := Option.isSome_iff_exists.1 h
    exact List.mem_map.2 ⟨_, Entries.mem_of_lookup hv, rfl⟩

theorem eq_empty_of_contains {t : Table κ ν} (h : ∀ k, t.contains k = false) : t = ∅ := by
  obtain ⟨entries, sorted⟩ := t
  cases entries with
  | nil => rfl
  | cons e rest =>
    have bound : (Table.mk (e :: rest) sorted).contains e.1 = true := mem_keys.1 List.mem_cons_self
    rw [h] at bound
    cases bound

omit [DecidableEq κ] in
theorem nodup_keys (t : Table κ ν) : t.keys.Nodup := Entries.nodup_keys t.sorted

/-- Two tables in which the same keys are bound list them alike. -/
theorem keys_eq_of_contains {t u : Table κ ν} (h : ∀ k, t.contains k = u.contains k) :
    t.keys = u.keys := by
  have sorted (v : Table κ ν) : v.keys.Pairwise fun a b => compare a b = .lt :=
    List.pairwise_map.2 v.sorted
  have same : t.keys.Perm u.keys :=
    (List.perm_ext_iff_of_nodup t.nodup_keys u.nodup_keys).2 fun k => by rw [mem_keys, mem_keys, h]
  refine List.Perm.eq_of_pairwise (fun a b _ _ hab hba => ?_) (sorted t) (sorted u) same
  exact absurd rfl (Entries.ne_of_compare_lt (Std.TransCmp.lt_trans hab hba))

variable [Std.LawfulEqOrd κ]

theorem contains_insert (t : Table κ ν) (k q : κ) (v : ν) :
    (t.insert k v).contains q = (q = k || t.contains q) := by
  unfold contains
  rw [get?_insert]
  by_cases hq : q = k <;> simp [hq]

theorem erase_insert (t : Table κ ν) (k : κ) (v : ν) : (t.insert k v).erase k = t.erase k := by
  unfold erase insert
  simp only [Entries.filter_ne_insert]

theorem values_insert_of_fresh {t : Table κ ν} {k : κ} (v : ν) (h : t.get? k = none) :
    (t.insert k v).values.Perm (v :: t.values) :=
  (Entries.insert_perm_of_fresh v h).map Prod.snd

theorem values_insert_of_bound {t : Table κ ν} {k : κ} {old : ν} (v : ν)
    (h : t.get? k = some old) : (old :: (t.insert k v).values).Perm (v :: t.values) :=
  (Entries.insert_perm_of_bound t.sorted h).map Prod.snd

theorem size_insert (t : Table κ ν) (k : κ) (v : ν) :
    (t.insert k v).size = if t.contains k then t.size else t.size + 1 := by
  unfold size contains
  cases h : t.get? k with
  | none => simpa [insert] using (Entries.insert_perm_of_fresh v h).length_eq
  | some old => simpa [insert] using (Entries.insert_perm_of_bound (v := v) t.sorted h).length_eq

theorem size_le_size_insert (t : Table κ ν) (k : κ) (v : ν) : t.size ≤ (t.insert k v).size := by
  rw [size_insert]
  split <;> omega

omit [DecidableEq κ] in
@[simp] theorem insertAll_cons (t : Table κ ν) (e : κ × ν) (pairs : List (κ × ν)) :
    t.insertAll (e :: pairs) = (t.insert e.1 e.2).insertAll pairs := rfl

omit [DecidableEq κ] in
theorem insertAll_append (t : Table κ ν) (pairs more : List (κ × ν)) :
    t.insertAll (pairs ++ more) = (t.insertAll pairs).insertAll more := List.foldl_append

theorem get?_insertAll_of_not_mem {pairs : List (κ × ν)} {k : κ} (h : k ∉ pairs.map Prod.fst)
    (t : Table κ ν) : (t.insertAll pairs).get? k = t.get? k := by
  induction pairs generalizing t with
  | nil => rfl
  | cons e rest ih =>
    have hr : k ∉ rest.map Prod.fst := fun hr => h (List.mem_cons_of_mem _ hr)
    have hne : k ≠ e.1 := fun hk => h (hk ▸ List.mem_cons_self)
    rw [insertAll_cons, ih hr, get?_insert_of_ne _ _ hne]

theorem exists_get?_insertAll {pairs : List (κ × ν)} {k : κ} (h : k ∈ pairs.map Prod.fst)
    (t : Table κ ν) : ∃ v, (k, v) ∈ pairs ∧ (t.insertAll pairs).get? k = some v := by
  induction pairs generalizing t with
  | nil => cases h
  | cons e rest ih =>
    rw [insertAll_cons]
    by_cases hr : k ∈ rest.map Prod.fst
    · obtain ⟨v, hv, hs⟩ := ih hr (t.insert e.1 e.2)
      exact ⟨v, List.mem_cons_of_mem _ hv, hs⟩
    · have hk : k = e.1 := by simpa [hr] using h
      subst hk
      refine ⟨e.2, List.mem_cons_self, ?_⟩
      rw [get?_insertAll_of_not_mem hr, get?_insert_self]

theorem contains_ofKeys {ks : List κ} {k : κ} : (Table.ofKeys ks).contains k = true ↔ k ∈ ks := by
  have hm : (ks.map (·, ())).map Prod.fst = ks := (List.map_map ..).trans (List.map_id ks)
  unfold contains ofKeys ofList
  by_cases h : k ∈ ks
  · obtain ⟨v, -, hv⟩ := exists_get?_insertAll (hm.symm ▸ h) (empty : Keys κ)
    simp [hv, h]
  · have hn : (empty : Keys κ).get? k = none := rfl
    rw [get?_insertAll_of_not_mem (hm.symm ▸ h), hn]
    simp [h]

/-- Where every key occurs once, all pairs are bound. -/
theorem get?_insertAll_of_mem {pairs : List (κ × ν)} (distinct : (pairs.map Prod.fst).Nodup)
    {e : κ × ν} (h : e ∈ pairs) (t : Table κ ν) : (t.insertAll pairs).get? e.1 = some e.2 := by
  induction pairs generalizing t with
  | nil => cases h
  | cons e' rest ih =>
    obtain ⟨absent, distinct⟩ := List.nodup_cons.1 distinct
    rw [insertAll_cons]
    rcases List.mem_cons.1 h with rfl | h
    · rw [get?_insertAll_of_not_mem absent, get?_insert_self]
    · exact ih distinct h _

/-- Of the pairs with a key the last one is bound. -/
theorem get?_insertAll (t : Table κ ν) (pairs : List (κ × ν)) (k : κ) :
    (t.insertAll pairs).get? k =
      ((pairs.filter (·.1 = k)).getLast?.map Prod.snd).or (t.get? k) := by
  induction pairs generalizing t with
  | nil => rfl
  | cons e rest ih =>
    rw [insertAll_cons, ih, get?_insert, List.filter_cons]
    by_cases hk : e.1 = k
    · rw [if_pos hk.symm, if_pos (by simpa using hk), List.getLast?_cons]
      cases (rest.filter (·.1 = k)).getLast? <;> rfl
    · rw [if_neg (Ne.symm hk), if_neg (by simpa using hk)]

/-- The entries of one table override those of another. -/
theorem get?_insertAll_entries (t u : Table κ ν) (k : κ) :
    (t.insertAll u.entries).get? k = (u.get? k).or (t.get? k) := by
  cases bound : u.get? k with
  | some v => exact get?_insertAll_of_mem u.nodup_keys (Entries.mem_of_lookup bound) t
  | none =>
    refine get?_insertAll_of_not_mem (fun listed => ?_) t
    obtain ⟨e, he, same⟩ := List.mem_map.1 listed
    exact Entries.lookup_eq_none.1 bound e he same

omit [DecidableEq κ] [Std.LawfulEqOrd κ] in
/-- A table is known by its entries, in any order. -/
theorem eq_of_perm {t u : Table κ ν} (h : t.entries.Perm u.entries) : t = u := by
  have same : t.entries = u.entries := by
    refine List.Perm.eq_of_pairwise (fun a b _ _ hab hba => ?_) t.sorted u.sorted h
    exact absurd rfl (Entries.ne_of_compare_lt (Std.TransCmp.lt_trans hab hba))
  cases t
  cases u
  cases same
  rfl

omit [Std.LawfulEqOrd κ] in
/-- A table is known by its look-ups. -/
theorem eq_of_get? {t u : Table κ ν} (h : ∀ k, t.get? k = u.get? k) : t = u := by
  have distinct : ∀ v : Table κ ν, v.entries.Nodup :=
    fun v => v.sorted.imp fun h he => Entries.ne_of_compare_lt h (congrArg Prod.fst he)
  refine eq_of_perm ((List.perm_ext_iff_of_nodup (distinct t) (distinct u)).2 fun e => ?_)
  have bound : ∀ v : Table κ ν, e ∈ v.entries ↔ v.get? e.1 = some e.2 :=
    fun v => ⟨Entries.lookup_of_mem v.sorted, Entries.mem_of_lookup⟩
  rw [bound, bound, h]

omit [Std.LawfulEqOrd κ] in
/-- A table has no more entries than another of its size in which they are bound. -/
theorem eq_of_bound {t u : Table κ ν} (size : t.size = u.size)
    (bound : ∀ e ∈ t.entries, u.get? e.1 = some e.2) : t = u := by
  have distinct : t.entries.Nodup :=
    t.sorted.imp fun h he => Entries.ne_of_compare_lt h (congrArg Prod.fst he)
  have within : t.entries ⊆ u.entries := fun e he => Entries.mem_of_lookup (bound e he)
  have same := (List.subperm_of_subset distinct within).perm_of_length_le (Nat.le_of_eq size.symm)
  exact eq_of_perm same

theorem insert_comm (t : Table κ ν) {k q : κ} (h : k ≠ q) (v w : ν) :
    (t.insert k v).insert q w = (t.insert q w).insert k v := by
  refine eq_of_get? fun p => ?_
  simp only [get?_insert]
  by_cases hp : p = k
  · subst hp
    simp [h]
  · simp [hp]

theorem insertAll_perm {t : Table κ ν} {pairs : List (κ × ν)}
    (distinct : (pairs.map Prod.fst).Nodup) (fresh : ∀ e ∈ pairs, t.get? e.1 = none) :
    (t.insertAll pairs).entries.Perm (t.entries ++ pairs) := by
  induction pairs generalizing t with
  | nil => rw [List.append_nil]; rfl
  | cons e rest ih =>
    obtain ⟨absent, distinct⟩ := List.nodup_cons.1 distinct
    have others : ∀ e' ∈ rest, (t.insert e.1 e.2).get? e'.1 = none := fun e' he' => by
      have hne : e'.1 ≠ e.1 := fun same => absent (same ▸ List.mem_map_of_mem he')
      rw [get?_insert_of_ne _ _ hne]
      exact fresh e' (List.mem_cons_of_mem _ he')
    have one := Entries.insert_perm_of_fresh e.2 (fresh e List.mem_cons_self)
    calc ((t.insert e.1 e.2).insertAll rest).entries.Perm
          ((t.insert e.1 e.2).entries ++ rest) := ih distinct others
      _ |>.Perm (e :: t.entries ++ rest) := one.append_right rest
      _ |>.Perm (t.entries ++ e :: rest) := List.perm_middle.symm

/-- The entries of a table, in any order, make the table again. -/
theorem ofList_of_perm {pairs : List (κ × ν)} {t : Table κ ν} (h : pairs.Perm t.entries) :
    ofList pairs = t := by
  have distinct : (pairs.map Prod.fst).Nodup :=
    (h.map Prod.fst).nodup_iff.2 (Entries.nodup_keys t.sorted)
  exact eq_of_perm ((insertAll_perm distinct fun _ _ => rfl).trans h)

theorem ofKeys_keys (s : Keys κ) : ofKeys s.keys = s := by
  have entries : s.keys.map (·, ()) = s.entries := (List.map_map ..).trans (List.map_id _)
  exact ofList_of_perm (.of_eq entries)

/-- Two tables that are written to alike stay alike. -/
theorem get?_insertAll_map {μ : Type} (f : ν → μ) {t : Table κ ν} {u : Table κ μ}
    (h : ∀ k, u.get? k = (t.get? k).map f) (pairs : List (κ × ν)) (k : κ) :
    (u.insertAll (pairs.map fun e => (e.1, f e.2))).get? k =
      ((t.insertAll pairs).get? k).map f := by
  induction pairs generalizing t u with
  | nil => exact h k
  | cons e rest ih =>
    rw [List.map_cons, insertAll_cons, insertAll_cons]
    apply ih
    intro q
    rw [get?_insert, get?_insert, h q]
    split <;> rfl

end Table

end BuildDispatch
