import Mathlib.Data.List.Basic
import BuildDispatch.Data.Format

/-!
Documents without a fault (`Document.Sound`), and how deep they nest. Passing over such a document
succeeds, and so does taking it in where it is shallow enough (`Document.hold_of_sound`). A plain
value is such a document (`Document.ofValue`).
-/
namespace BuildDispatch.Data

mutual

/-- No fault was met anywhere in the text of a value. -/
def Document.Sound : Document → Prop
  | .absent _ => False
  | .literal value => ∃ v, value = .ok v
  | .number value pass => (∃ n, value = .ok n) ∧ pass = .ok ()
  | .text value pass => (∃ s, value = .ok s) ∧ pass = .ok ()
  | .list items => items.Sound
  | .object members => members.Sound

def Items.Sound : Items → Prop
  | .close outcome => outcome = .ok ()
  | .item head rest => head.Sound ∧ rest.Sound

def Members.Sound : Members → Prop
  | .close outcome => outcome = .ok ()
  | .member key colon value rest =>
    (∃ k, key = .ofString k) ∧ colon = .ok () ∧ value.Sound ∧ rest.Sound

end

mutual

def Document.levels : Document → Nat
  | .list items => items.levels + 1
  | .object members => members.levels + 1
  | _ => 0

def Items.levels : Items → Nat
  | .close _ => 0
  | .item head rest => max head.levels rest.levels

def Members.levels : Members → Nat
  | .close _ => 0
  | .member _ _ value rest => max value.levels rest.levels

end

mutual

theorem Document.skip_of_sound : (d : Document) → d.Sound → d.skip = .ok ()
  | .literal _, ⟨_, rfl⟩ => rfl
  | .number _ _, ⟨_, rfl⟩ => rfl
  | .text _ _, ⟨_, rfl⟩ => rfl
  | .list items, h => items.skip_of_sound h
  | .object members, h => members.skip_of_sound h

theorem Items.skip_of_sound : (items : Items) → items.Sound → items.skip = .ok ()
  | .close _, h => h
  | .item head rest, ⟨soundHead, soundRest⟩ => by
    rw [Items.skip, head.skip_of_sound soundHead, rest.skip_of_sound soundRest]
    rfl

theorem Members.skip_of_sound : (members : Members) → members.Sound → members.skip = .ok ()
  | .close _, h => h
  | .member _ _ value rest, ⟨⟨_, rfl⟩, rfl, soundValue, soundRest⟩ => by
    rw [Members.skip, value.skip_of_sound soundValue, rest.skip_of_sound soundRest]
    rfl

end

mutual

theorem Document.absorb_of_sound {depth : Nat} :
    (d : Document) → d.Sound → d.levels < depth → d.absorb depth = .ok ()
  | .literal _, ⟨_, rfl⟩, _ => rfl
  | .number _ _, ⟨⟨_, rfl⟩, _⟩, _ => rfl
  | .text _ _, ⟨⟨_, rfl⟩, _⟩, _ => rfl
  | .list items, h, shallow => by
    rw [Document.levels] at shallow
    rw [Document.absorb, if_neg (by omega)]
    exact items.absorb_of_sound h (by omega)
  | .object members, h, shallow => by
    rw [Document.levels] at shallow
    rw [Document.absorb, if_neg (by omega)]
    exact members.absorb_of_sound h (by omega)

theorem Items.absorb_of_sound {depth : Nat} :
    (items : Items) → items.Sound → items.levels < depth → items.absorb depth = .ok ()
  | .close _, h, _ => h
  | .item head rest, ⟨soundHead, soundRest⟩, shallow => by
    rw [Items.levels, Nat.max_lt] at shallow
    rw [Items.absorb, head.absorb_of_sound soundHead shallow.1,
      rest.absorb_of_sound soundRest shallow.2]
    rfl

theorem Members.absorb_of_sound {depth : Nat} :
    (members : Members) → members.Sound → members.levels < depth → members.absorb depth = .ok ()
  | .close _, h, _ => h
  | .member _ _ value rest, ⟨⟨_, rfl⟩, rfl, soundValue, soundRest⟩, shallow => by
    rw [Members.levels, Nat.max_lt] at shallow
    rw [Members.absorb, value.absorb_of_sound soundValue shallow.1,
      rest.absorb_of_sound soundRest shallow.2]
    rfl

end

theorem Document.hold_of_sound {d : Document} {mode : Mode} {depth : Nat} (sound : d.Sound)
    (shallow : mode = .direct → d.levels < depth) : d.hold mode depth = .ok () := by
  unfold Document.hold
  split_ifs with direct
  · rw [d.absorb_of_sound sound (shallow direct)]
    rfl
  · rfl

theorem enter_of_levels {mode : Mode} {depth levels : Nat}
    (shallow : mode = .direct → levels + 1 < depth) : enter mode depth = .ok () := by
  unfold enter
  rw [if_neg]
  rintro ⟨direct, low⟩
  have := shallow direct
  omega

/-! Lists and objects that are closed. -/

theorem Items.sound_ofList {ds : List Document} : (ofList ds).Sound ↔ ∀ d ∈ ds, d.Sound := by
  induction ds with
  | nil => simp [ofList, Items.Sound]
  | cons d ds ih => simp [ofList, Items.Sound, ih]

theorem Items.levels_ofList {ds : List Document} {n : Nat} :
    (ofList ds).levels ≤ n ↔ ∀ d ∈ ds, d.levels ≤ n := by
  induction ds with
  | nil => simp [ofList, Items.levels]
  | cons d ds ih => rw [ofList, Items.levels, Nat.max_le, ih, List.forall_mem_cons]

theorem Items.levels_lt {ds : List Document} {depth : Nat}
    (shallow : (Document.list (ofList ds)).levels < depth) : ∀ d ∈ ds, d.levels < depth - 1 := by
  intro d hd
  have low := levels_ofList.1 (Nat.le_refl _) d hd
  rw [Document.levels] at shallow
  omega

theorem Members.sound_ofList {ms : List (String × Document)} :
    (ofList ms).Sound ↔ ∀ e ∈ ms, e.2.Sound := by
  induction ms with
  | nil => simp [ofList, Members.Sound]
  | cons e ms ih => simp [ofList, Members.Sound, ih]

theorem Members.levels_ofList {ms : List (String × Document)} {n : Nat} :
    (ofList ms).levels ≤ n ↔ ∀ e ∈ ms, e.2.levels ≤ n := by
  induction ms with
  | nil => simp [ofList, Members.levels]
  | cons e ms ih => rw [ofList, Members.levels, Nat.max_le, ih, List.forall_mem_cons]

theorem Members.levels_lt {ms : List (String × Document)} {depth : Nat}
    (shallow : (Document.object (ofList ms)).levels < depth) :
    ∀ e ∈ ms, e.2.levels < depth - 1 := by
  intro e he
  have low := levels_ofList.1 (Nat.le_refl _) e he
  rw [Document.levels] at shallow
  omega

theorem Members.without_ofList (name : String) (ms : List (String × Document)) :
    (ofList ms).without name = ofList (ms.filter (·.1 ≠ name)) := by
  induction ms with
  | nil => rfl
  | cons e ms ih =>
    obtain ⟨k, d⟩ := e
    rw [ofList, Members.without]
    by_cases hk : k = name
    · rw [List.filter_cons_of_neg (by simp [hk]), ← ih]
      simp [Document.key, Document.ofString, hk]
    · rw [List.filter_cons_of_pos (by simp [hk]), ofList, ← ih]
      simp [Document.key, Document.ofString, hk]

def under (name : String) (ms : List (String × Document)) : List Document :=
  (ms.filter (·.1 = name)).map Prod.snd

theorem under_cons (name : String) (e : String × Document) (ms : List (String × Document)) :
    under name (e :: ms) = if e.1 = name then e.2 :: under name ms else under name ms := by
  unfold under
  by_cases h : e.1 = name
  · simp [h]
  · simp [h]

theorem under_eq_nil {name : String} {ms : List (String × Document)} :
    under name ms = [] ↔ name ∉ ms.map Prod.fst := by
  simp only [under, List.map_eq_nil_iff, List.filter_eq_nil_iff, decide_eq_true_eq, List.mem_map,
    not_exists, not_and]

theorem mem_under {name : String} {ms : List (String × Document)} {d : Document} :
    d ∈ under name ms ↔ (name, d) ∈ ms := by
  unfold under
  simp

/-- The members of one name are none of another. -/
theorem under_filter_ne {name other : String} (h : name ≠ other) (ms : List (String × Document)) :
    under name (ms.filter (·.1 ≠ other)) = under name ms := by
  unfold under
  rw [List.filter_filter]
  congr 1
  apply List.filter_congr
  grind

/-! Plain values. -/

mutual

/-- The document of a plain value. -/
def Document.ofValue : Value → Document
  | .null => .literal (.ok none)
  | .flag b => .literal (.ok (some b))
  | .whole n => .number (.ok (.whole n)) (.ok ())
  | .text s => .ofString s
  | .list vs => .list (Items.ofValues vs)
  | .object ms => .object (Members.ofValues ms)

def Items.ofValues : List Value → Items
  | [] => .close (.ok ())
  | v :: vs => .item (.ofValue v) (Items.ofValues vs)

def Members.ofValues : List (String × Value) → Members
  | [] => .close (.ok ())
  | (k, v) :: ms => .member (.ofString k) (.ok ()) (.ofValue v) (Members.ofValues ms)

end

theorem Items.ofValues_eq (vs : List Value) : ofValues vs = ofList (vs.map .ofValue) := by
  induction vs with
  | nil => rfl
  | cons v vs ih => rw [ofValues, ih, List.map_cons, ofList]

def ofMembers (ms : List (String × Value)) : List (String × Document) :=
  ms.map fun e => (e.1, .ofValue e.2)

theorem Members.ofValues_eq (ms : List (String × Value)) : ofValues ms = ofList (ofMembers ms) := by
  induction ms with
  | nil => rfl
  | cons e ms ih =>
    obtain ⟨k, v⟩ := e
    rw [ofValues, ih]
    rfl

theorem ofValue_list (vs : List Value) :
    Document.ofValue (.list vs) = .list (.ofList (vs.map .ofValue)) := by
  rw [Document.ofValue, Items.ofValues_eq]

theorem ofValue_object (ms : List (String × Value)) :
    Document.ofValue (.object ms) = .object (.ofList (ofMembers ms)) := by
  rw [Document.ofValue, Members.ofValues_eq]

end BuildDispatch.Data
