import Mathlib.Data.List.Forall2
import BuildDispatch.Proofs.Data.Document
import BuildDispatch.Proofs.Table

/-!
What it takes for a format to keep a value (`Format.Carries`), and the documents of a value
(`Format.Renders`): members in any order, members of other names among those of a record, and fields
left out that stand for what is absent. A value is read back from each of its documents
(`Format.read_of_renders`).
-/
namespace BuildDispatch.Data

/-- What a field is when a document with named fields does not have it. -/
def Absence.fallback {α : Type} : Absence α → Option α
  | .refused => none
  | .named a => some a
  | .anywhere a => some a

def Fields.names {ρ σ : Type} : Fields ρ σ → List String
  | .nil => []
  | .cons name _ _ _ rest => name :: rest.names

/-- Whether a value is written as nothing, so that no option of it can be told from none. -/
def Format.mayBeNull {α : Type} : Format α → Bool
  | .option _ => true
  | .via format _ _ => format.mayBeNull
  | _ => false

mutual

/-- A value that the format keeps: reading takes back what writing does to it. -/
def Format.Carries {α : Type} : Format α → α → Prop
  | .flag, _ => True
  | .word limit, n => n ≤ limit
  | .text, _ => True
  | .option format, a => format.mayBeNull = false ∧ ∀ b ∈ a, format.Carries b
  | .list format, as => ∀ a ∈ as, format.Carries a
  | .keys, _ => True
  | .map format, t => ∀ e ∈ t.entries, format.Carries e.2
  | .named all name, a => ofName all name (name a) = .ok a
  | .record fields build parts, a =>
    build (parts a) = a ∧ fields.names.Nodup ∧ fields.Carry (parts a)
  | .tagged tag variants, a => variants.names.Nodup ∧ variants.Carry tag a
  | .via format build parts, b => build (parts b) = b ∧ format.Carries (parts b)

/-- A field is left out in writing only where its value stands for what is absent. -/
def Fields.Carry {ρ σ : Type} : Fields ρ σ → ρ → Prop
  | .nil, _ => True
  | .cons _ format absence hidden rest, (a, r) =>
    format.Carries a ∧ (hidden a = true → absence.fallback = some a) ∧ rest.Carry r

def Variants.Carry {α : Type} : Variants α → String → α → Prop
  | .nil, _, _ => False
  | .cons _ fields build parts rest, tag, a =>
    match parts a with
    | some r => build r = a ∧ tag ∉ fields.names ∧ fields.names.Nodup ∧ fields.Carry r
    | none => rest.Carry tag a

end

mutual

/--
A document of a value: its written form, but for the order of members, members of other names among
those of a record, and members left out whose value stands for what is absent.
-/
def Format.Renders {α : Type} : Format α → α → Document → Prop
  | .flag, b, d => d = .literal (.ok (some b))
  | .word _, n, d => d = .number (.ok (.whole n)) (.ok ())
  | .text, s, d => d = .ofString s
  | .option format, a, d =>
    match a with
    | none => d = .literal (.ok none)
    | some a => format.Renders a d
  | .list format, as, d => ∃ ds, d = .list (.ofList ds) ∧ List.Forall₂ format.Renders as ds
  | .keys, s, d => d = .list (.ofList (s.keys.map .ofString))
  | .map format, t, d => ∃ ms entries, d = .object (.ofList ms) ∧ entries.Perm t.entries ∧
    List.Forall₂ (fun e m => m.1 = e.1 ∧ format.Renders e.2 m.2) entries ms
  | .named _ name, a, d => d = .ofString (name a)
  | .record fields _ parts, a, d => ∃ ms, d = .object (.ofList ms) ∧ fields.Render (parts a) ms
  | .tagged tag variants, a, d => ∃ ms, d = .object (.ofList ms) ∧ variants.Render tag a ms
  | .via format _ parts, b, d => format.Renders (parts b) d

/--
Members among which each field has one, or none where its value stands for what is absent. Nothing
is said of the order, or of members under other names.
-/
def Fields.Render {ρ σ : Type} : Fields ρ σ → ρ → List (String × Document) → Prop
  | .nil, _, _ => True
  | .cons name format absence _ rest, (a, r), ms =>
    ((∃ d, under name ms = [d] ∧ format.Renders a d) ∨
      under name ms = [] ∧ absence.fallback = some a) ∧ rest.Render r ms

/-- Members that hold the tag, once, and the fields of the variant that it names. -/
def Variants.Render {α : Type} : Variants α → String → α → List (String × Document) → Prop
  | .nil, _, _, _ => False
  | .cons name fields _ parts rest, tag, a, ms =>
    match parts a with
    | some r => under tag ms = [.ofString name] ∧ fields.Render r ms
    | none => rest.Render tag a ms

end

/-! Lists and maps. -/

theorem readItems_ofList {α : Type} {read : Document → Except ReadError α}
    {R : α → Document → Prop} {as : List α} {ds : List Document} (h : List.Forall₂ R as ds)
    (reads : ∀ a ∈ as, ∀ d ∈ ds, R a d → read d = .ok a) :
    readItems read (.ofList ds) = .ok as := by
  induction h with
  | nil => rfl
  | @cons a d as ds here _ ih =>
    have head := reads a List.mem_cons_self d List.mem_cons_self here
    have later := ih fun a ha d hd =>
      reads a (List.mem_cons_of_mem _ ha) d (List.mem_cons_of_mem _ hd)
    rw [Items.ofList, readItems, head, later]
    rfl

theorem readEntries_ofList {α : Type} {read : Document → Except ReadError α}
    {R : α → Document → Prop} {entries : List (String × α)} {ms : List (String × Document)}
    (h : List.Forall₂ (fun e m => m.1 = e.1 ∧ R e.2 m.2) entries ms)
    (reads : ∀ e ∈ entries, ∀ m ∈ ms, R e.2 m.2 → read m.2 = .ok e.2) :
    readEntries read (.ofList ms) = .ok entries := by
  induction h with
  | nil => rfl
  | @cons e m entries ms here _ ih =>
    have head := reads e List.mem_cons_self m List.mem_cons_self here.2
    have later := ih fun e he m hm =>
      reads e (List.mem_cons_of_mem _ he) m (List.mem_cons_of_mem _ hm)
    rw [Members.ofList, readEntries, head, later, here.1]
    rfl

theorem readItems_texts (ss : List String) :
    readItems readText (.ofList (ss.map .ofString)) = .ok ss := by
  have same : List.Forall₂ (fun s d => d = Document.ofString s) ss (ss.map .ofString) :=
    List.forall₂_map_right_iff.2 (List.forall₂_same.2 fun _ _ => rfl)
  refine readItems_ofList same fun s _ d _ hd => ?_
  rw [hd]
  rfl

theorem Format.ne_null_of_renders {α : Type} (f : Format α) {a : α} {d : Document}
    (other : f.mayBeNull = false) (h : f.Renders a d) : d ≠ .literal (.ok none) := by
  cases f with
  | option => cases other
  | via f =>
    rw [Format.Renders] at h
    exact f.ne_null_of_renders other h
  | flag | word | text | keys | named =>
    rw [Format.Renders] at h
    rw [h]
    rintro ⟨⟩
  | list | record | tagged =>
    rw [Format.Renders] at h
    obtain ⟨_, rfl, -⟩ := h
    rintro ⟨⟩
  | map =>
    rw [Format.Renders] at h
    obtain ⟨_, _, rfl, -⟩ := h
    rintro ⟨⟩

theorem Format.read_option {α : Type} (f : Format α) (mode : Mode) (depth : Nat) {d : Document}
    (sound : d.Sound) (present : d ≠ .literal (.ok none)) :
    (Format.option f).read mode depth d = (f.read mode depth d).map some := by
  rw [Format.read]
  · exact present
  · rintro why rfl
    obtain ⟨v, hv⟩ := sound
    cases hv

/-! Records. -/

def Fields.taken {ρ σ : Type} : Fields ρ σ → ρ → List String → σ
  | .nil, _, _ => ()
  | .cons name _ _ _ rest, (a, r), keys => (if name ∈ keys then some a else none, rest.taken r keys)

theorem Fields.taken_nil {ρ σ : Type} :
    (fields : Fields ρ σ) → (r : ρ) → fields.taken r [] = fields.unmet
  | .nil, _ => rfl
  | .cons _ _ _ _ rest, (_, r) => by
    rw [Fields.taken, rest.taken_nil r, if_neg List.not_mem_nil]
    rfl

theorem Fields.taken_cons_of_not_mem {ρ σ : Type} {k : String} :
    (fields : Fields ρ σ) → (r : ρ) → (keys : List String) → k ∉ fields.names →
      fields.taken r (k :: keys) = fields.taken r keys
  | .nil, _, _, _ => rfl
  | .cons name _ _ _ rest, (a, r), keys, other => by
    obtain ⟨ne, other⟩ := not_or.1 (mt List.mem_cons.2 other)
    rw [Fields.taken, Fields.taken, rest.taken_cons_of_not_mem r keys other]
    simp [Ne.symm ne]

theorem Fields.slot_eq_none {ρ σ : Type} {mode : Mode} {depth : Nat} {k : String} :
    (fields : Fields ρ σ) → k ∉ fields.names → fields.slot mode depth k = none
  | .nil, _ => rfl
  | .cons name _ _ _ rest, other => by
    obtain ⟨ne, other⟩ := not_or.1 (mt List.mem_cons.2 other)
    rw [Fields.slot, if_neg ne, rest.slot_eq_none other]
    rfl

/-- A member fills the field of its name with what the record has there. -/
def Fields.Takes {ρ σ : Type} (fields : Fields ρ σ) (r : ρ) (mode : Mode) (depth : Nat)
    (k : String) (d : Document) : Prop :=
  ∃ slot, fields.slot mode depth k = some slot ∧ ∀ keys,
    slot.filled (fields.taken r keys) = decide (k ∈ keys) ∧
      slot.fill d (fields.taken r keys) = .ok (fields.taken r (k :: keys))

theorem Fields.render_congr {ρ σ : Type} {ms ms' : List (String × Document)} :
    (fields : Fields ρ σ) → {r : ρ} → (∀ name ∈ fields.names, under name ms = under name ms') →
      fields.Render r ms → fields.Render r ms'
  | .nil, _, _, h => h
  | .cons name _ _ _ rest, (_, _), same, h => by
    rw [Fields.Render] at h ⊢
    obtain ⟨here, others⟩ := h
    rw [same name List.mem_cons_self] at here
    exact ⟨here, rest.render_congr (fun n hn => same n (List.mem_cons_of_mem _ hn)) others⟩

theorem Fields.length_under_of_render {ρ σ : Type} {ms : List (String × Document)} {k : String} :
    (fields : Fields ρ σ) → {r : ρ} → fields.Render r ms → k ∈ fields.names →
      (under k ms).length ≤ 1
  | .cons name _ _ _ rest, (_, _), h, hk => by
    rw [Fields.Render] at h
    obtain ⟨here, others⟩ := h
    rcases List.mem_cons.1 hk with rfl | hk
    · rcases here with ⟨d, one, -⟩ | ⟨no, -⟩
      · simp [one]
      · simp [no]
    · exact rest.length_under_of_render others hk

theorem Fields.finish_taken {ρ σ : Type} {ms : List (String × Document)} {keys : List String}
    (same : ∀ k, k ∈ keys ↔ k ∈ ms.map Prod.fst) :
    (fields : Fields ρ σ) → {r : ρ} → fields.Render r ms →
      fields.finish (fields.taken r keys) = .ok r
  | .nil, _, _ => rfl
  | .cons name _ absence _ rest, (a, r), h => by
    rw [Fields.Render] at h
    obtain ⟨here, others⟩ := h
    have ended := rest.finish_taken same others
    rw [Fields.taken]
    by_cases met : name ∈ keys
    · rw [if_pos met, Fields.finish, ended]
      rfl
    · have absent : under name ms = [] := under_eq_nil.2 (mt (same name).2 met)
      have stands : absence.fallback = some a := by
        rcases here with ⟨d, one, -⟩ | ⟨-, stands⟩
        · rw [absent] at one
          cases one
        · exact stands
      rw [if_neg met]
      cases absence with
      | refused => cases stands
      | named b | anywhere b =>
        cases stands
        rw [Fields.finish, ended]
        rfl

/-- Members are read one after the other: those of other names are passed over. -/
theorem Fields.readMembers_of_takes {ρ σ : Type} {fields : Fields ρ σ} {r : ρ} {mode : Mode}
    {depth : Nat} {ms : List (String × Document)} {keys : List String}
    (takes : ∀ e ∈ ms, e.1 ∈ fields.names → fields.Takes r mode depth e.1 e.2)
    (sound : ∀ e ∈ ms, e.2.Sound) (once : ∀ k ∈ fields.names, (under k ms).length ≤ 1)
    (fresh : ∀ k ∈ fields.names, k ∈ keys → under k ms = []) :
    Data.readMembers (fields.slot mode depth) (fields.taken r keys) (.ofList ms) =
      .ok (fields.taken r ((ms.map Prod.fst).reverse ++ keys)) := by
  induction ms generalizing keys with
  | nil => rfl
  | cons e ms ih =>
    obtain ⟨k, d⟩ := e
    obtain ⟨soundHere, sound⟩ := List.forall_mem_cons.1 sound
    obtain ⟨takesHere, takes⟩ := List.forall_mem_cons.1 takes
    have onceLater : ∀ n ∈ fields.names, (under n ms).length ≤ 1 := fun n hn => by
      have := once n hn
      rw [under_cons] at this
      split_ifs at this
      · simp only [List.length_cons] at this
        omega
      · exact this
    have freshLater : ∀ n ∈ fields.names, n ∈ k :: keys → under n ms = [] := fun n hn met => by
      have atMost := once n hn
      rw [under_cons] at atMost
      split_ifs at atMost with same
      · exact List.length_eq_zero_iff.1 (by simp only [List.length_cons] at atMost; omega)
      · have earlier : n ∈ keys := (List.mem_cons.1 met).resolve_left (Ne.symm same)
        have none := fresh n hn earlier
        rwa [under_cons, if_neg same] at none
    have after := ih takes sound onceLater freshLater
    have keysEq : ((k :: ms.map Prod.fst).reverse ++ keys) =
        (ms.map Prod.fst).reverse ++ (k :: keys) := by simp
    rw [List.map_cons, keysEq, ← after, Members.ofList, Data.readMembers]
    by_cases known : k ∈ fields.names
    · obtain ⟨slot, found, fills⟩ := takesHere known
      obtain ⟨filled, fill⟩ := fills keys
      have notYet : k ∉ keys := fun met => by
        have none := fresh k known met
        rw [under_cons, if_pos rfl] at none
        cases none
      simp only [Document.key, Document.ofString, Data.met, bind, Except.bind, found, filled,
        decide_eq_true_eq, if_neg notYet, fill]
    · have skipped := d.skip_of_sound soundHere
      simp only [Document.key, Document.ofString, Data.met, bind, Except.bind,
        fields.slot_eq_none known, skipped, fields.taken_cons_of_not_mem r keys known]

theorem Fields.read_of_takes {ρ σ : Type} {fields : Fields ρ σ} {r : ρ} {mode : Mode}
    {depth : Nat} {ms : List (String × Document)}
    (takes : ∀ e ∈ ms, e.1 ∈ fields.names → fields.Takes r mode depth e.1 e.2)
    (sound : ∀ e ∈ ms, e.2.Sound) (render : fields.Render r ms) :
    ∃ s, Data.readMembers (fields.slot mode depth) fields.unmet (.ofList ms) = .ok s ∧
      fields.finish s = .ok r := by
  have once : ∀ k ∈ fields.names, (under k ms).length ≤ 1 :=
    fun k hk => fields.length_under_of_render render hk
  have fresh : ∀ k ∈ fields.names, k ∈ ([] : List String) → under k ms = [] := nofun
  have met := Fields.readMembers_of_takes takes sound once fresh
  rw [fields.taken_nil] at met
  exact ⟨_, met, fields.finish_taken (by simp) render⟩

/-! Tagged records. -/

section
variable {tag : String} {names : List String} {mode : Mode} {depth : Nat}
  {ms : List (String × Document)}

theorem findTag_of_absent {found : Option Nat} (absent : under tag ms = [])
    (sound : ∀ e ∈ ms, e.2.Sound) (shallow : mode = .direct → ∀ e ∈ ms, e.2.levels < depth) :
    findTag tag names mode depth found (.ofList ms) = .ok found := by
  induction ms with
  | nil => rfl
  | cons e ms ih =>
    obtain ⟨k, d⟩ := e
    obtain ⟨soundHere, sound⟩ := List.forall_mem_cons.1 sound
    have held := Document.hold_of_sound soundHere fun direct => shallow direct _ List.mem_cons_self
    rw [under_cons] at absent
    split_ifs at absent with other
    have later := ih absent sound fun direct e he => shallow direct e (List.mem_cons_of_mem _ he)
    rw [Members.ofList, findTag]
    simp only [Document.key, Document.ofString, Data.met, bind, Except.bind, if_neg other, held,
      later]

theorem findTag_of_present {name : String} {i : Nat} (present : under tag ms = [.ofString name])
    (known : names.idxOf? name = some i) (sound : ∀ e ∈ ms, e.2.Sound)
    (shallow : mode = .direct → ∀ e ∈ ms, e.2.levels < depth) :
    findTag tag names mode depth none (.ofList ms) = .ok (some i) := by
  induction ms with
  | nil => cases present
  | cons e ms ih =>
    obtain ⟨k, d⟩ := e
    have soundLater : ∀ e ∈ ms, e.2.Sound := fun e he => sound e (List.mem_cons_of_mem _ he)
    have shallowLater : mode = .direct → ∀ e ∈ ms, e.2.levels < depth :=
      fun direct e he => shallow direct e (List.mem_cons_of_mem _ he)
    have held := Document.hold_of_sound (sound _ List.mem_cons_self) fun direct =>
      shallow direct _ List.mem_cons_self
    rw [under_cons] at present
    rw [Members.ofList, findTag]
    split_ifs at present with here
    · obtain ⟨rfl, absent⟩ := List.cons.inj present
      have later : findTag tag names mode depth (some i) (.ofList ms) = .ok (some i) :=
        findTag_of_absent absent soundLater shallowLater
      have read : readTag names mode (.ofString name) = .ok i := by
        simp only [readTag, Document.ofString, Data.met, bind, Except.bind, known]
      simp only [Document.key, Document.ofString, Data.met, bind, Except.bind, if_pos here,
        Option.isSome_none, Bool.false_eq_true, if_false] at read ⊢
      rw [read]
      exact later
    · have later := ih present soundLater shallowLater
      simp only [Document.key, Document.ofString, Data.met, bind, Except.bind, if_neg here, held,
        later]

end

mutual

/-- A value is read back from each of its documents that is free of faults and not too deep. -/
theorem Format.read_of_renders {α : Type} (f : Format α) {mode : Mode} {depth : Nat} {a : α}
    {d : Document} (carries : f.Carries a) (renders : f.Renders a d) (sound : d.Sound)
    (shallow : mode = .direct → d.levels < depth) : f.read mode depth d = .ok a := by
  match f, carries, renders with
  | .flag, _, renders =>
    rw [Format.Renders] at renders
    rw [renders]
    rfl
  | .word limit, carries, renders =>
    rw [Format.Carries] at carries
    rw [Format.Renders] at renders
    rw [renders, Format.read, if_pos carries]
  | .text, _, renders =>
    rw [Format.Renders] at renders
    rw [renders]
    rfl
  | .option f, carries, renders =>
    rw [Format.Carries] at carries
    cases a with
    | none =>
      rw [Format.Renders] at renders
      rw [renders]
      rfl
    | some a =>
      rw [Format.Renders] at renders
      have present := f.ne_null_of_renders carries.1 renders
      rw [f.read_option mode depth sound present,
        f.read_of_renders (carries.2 a rfl) renders sound shallow]
      rfl
  | .list f, carries, renders =>
    rw [Format.Carries] at carries
    rw [Format.Renders] at renders
    obtain ⟨ds, rfl, elements⟩ := renders
    have soundEach := Items.sound_ofList.1 sound
    have shallowEach := fun direct => Items.levels_lt (shallow direct)
    rw [Format.read, enter_of_levels shallow]
    exact readItems_ofList elements fun a ha d hd renders =>
      f.read_of_renders (carries a ha) renders (soundEach d hd) fun direct =>
        shallowEach direct d hd
  | .keys, _, renders =>
    rw [Format.Renders] at renders
    rw [renders] at shallow ⊢
    rw [Format.read, enter_of_levels shallow]
    simp only [bind, Except.bind, readItems_texts, pure, Except.pure, Table.ofKeys_keys]
  | .map f, carries, renders =>
    rw [Format.Carries] at carries
    rw [Format.Renders] at renders
    obtain ⟨ms, entries, rfl, perm, held⟩ := renders
    have soundEach := Members.sound_ofList.1 sound
    have shallowEach := fun direct => Members.levels_lt (shallow direct)
    have read : readEntries (f.read mode (depth - 1)) (.ofList ms) = .ok entries :=
      readEntries_ofList held fun e he m hm renders =>
        f.read_of_renders (carries e (perm.mem_iff.1 he)) renders (soundEach m hm) fun direct =>
          shallowEach direct m hm
    rw [Format.read, enter_of_levels shallow]
    simp only [bind, Except.bind, read, pure, Except.pure, Table.ofList_of_perm perm]
  | .named all name, carries, renders =>
    rw [Format.Carries] at carries
    rw [Format.Renders] at renders
    rw [renders]
    exact carries
  | .record fields build parts, carries, renders =>
    rw [Format.Carries] at carries
    rw [Format.Renders] at renders
    obtain ⟨ms, rfl, render⟩ := renders
    obtain ⟨back, distinct, carry⟩ := carries
    have soundEach := Members.sound_ofList.1 sound
    have shallowEach := fun direct => Members.levels_lt (shallow direct)
    have takes := fun (e : String × Document) (he : e ∈ ms) (known : e.1 ∈ fields.names) =>
      fields.takes_of_render distinct carry render he known (soundEach e he) fun direct =>
        shallowEach direct e he
    obtain ⟨s, read, finished⟩ := Fields.read_of_takes takes soundEach render
    rw [Format.read, enter_of_levels shallow]
    simp only [bind, Except.bind, read, finished, pure, Except.pure, back]
  | .tagged tag variants, carries, renders =>
    rw [Format.Carries] at carries
    rw [Format.Renders] at renders
    obtain ⟨ms, rfl, render⟩ := renders
    obtain ⟨distinct, carry⟩ := carries
    have soundEach := Members.sound_ofList.1 sound
    have shallowEach := fun direct => Members.levels_lt (shallow direct)
    obtain ⟨name, i, present, known, read⟩ :=
      variants.readMembers_of_render distinct carry render soundEach
    have found := findTag_of_present present known soundEach shallowEach
    rw [Format.read, enter_of_levels shallow]
    simp only [bind, Except.bind, found, Members.without_ofList, read]
  | .via f build parts, carries, renders =>
    rw [Format.Carries] at carries
    rw [Format.Renders] at renders
    rw [Format.read, f.read_of_renders carries.2 renders sound shallow]
    exact congrArg Except.ok carries.1

theorem Fields.takes_of_render {ρ σ : Type} (fields : Fields ρ σ) {mode : Mode} {depth : Nat}
    {ms : List (String × Document)} {r : ρ} (distinct : fields.names.Nodup)
    (carry : fields.Carry r) (render : fields.Render r ms) {e : String × Document} (he : e ∈ ms)
    (known : e.1 ∈ fields.names) (sound : e.2.Sound)
    (shallow : mode = .direct → e.2.levels < depth) : fields.Takes r mode depth e.1 e.2 := by
  match fields, r, distinct, carry, render, known with
  | .cons name f absence hidden rest, (a, r), distinct, carry, render, known =>
    obtain ⟨k, d⟩ := e
    rw [Fields.Carry] at carry
    rw [Fields.Render] at render
    obtain ⟨carriesHere, -, carry⟩ := carry
    obtain ⟨here, render⟩ := render
    obtain ⟨unique, distinct⟩ := List.nodup_cons.1 distinct
    by_cases hk : k = name
    · subst hk
      obtain ⟨d', one, renders⟩ : ∃ d', under k ms = [d'] ∧ f.Renders a d' := by
        rcases here with one | ⟨no, -⟩
        · exact one
        · have := mem_under.2 he
          rw [no] at this
          cases this
      obtain rfl : d = d' := by
        have := mem_under.2 he
        rwa [one, List.mem_singleton] at this
      have read := f.read_of_renders carriesHere renders sound shallow
      refine ⟨_, by rw [Fields.slot, if_pos rfl], fun keys => ⟨?_, ?_⟩⟩
      · by_cases met : k ∈ keys <;> simp [Fields.taken, met]
      · simp only [read, Fields.taken, Except.map, List.mem_cons_self, if_true,
          rest.taken_cons_of_not_mem r keys unique]
    · have knownLater := (List.mem_cons.1 known).resolve_left hk
      obtain ⟨slot, found, fills⟩ :=
        rest.takes_of_render distinct carry render he knownLater sound shallow
      refine ⟨_, by rw [Fields.slot, if_neg hk, found]; rfl, fun keys => ⟨?_, ?_⟩⟩
      · exact (fills keys).1
      · simp [Fields.taken, (fills keys).2, Except.map, Ne.symm hk]

theorem Variants.readMembers_of_render {α : Type} (variants : Variants α) {tag : String}
    {ms : List (String × Document)} {a : α} (distinct : variants.names.Nodup)
    (carry : variants.Carry tag a) (render : variants.Render tag a ms)
    (sound : ∀ e ∈ ms, e.2.Sound) :
    ∃ name i, under tag ms = [.ofString name] ∧ variants.names.idxOf? name = some i ∧
      variants.readMembers i (.ofList (ms.filter (·.1 ≠ tag))) = .ok a := by
  match variants, distinct, carry, render with
  | .nil, _, carry, _ => cases carry
  | .cons name fields build parts rest, distinct, carry, render =>
    rw [Variants.Carry] at carry
    rw [Variants.Render] at render
    obtain ⟨unique, distinct⟩ := List.nodup_cons.1 distinct
    cases taken : parts a with
    | some r =>
      rw [taken] at carry render
      obtain ⟨back, apart, distinctFields, carry⟩ := carry
      obtain ⟨present, render⟩ := render
      have beside : fields.Render r (ms.filter (·.1 ≠ tag)) :=
        fields.render_congr (fun n hn =>
          (under_filter_ne (ne_of_mem_of_not_mem hn apart) ms).symm) render
      have soundBeside : ∀ e ∈ ms.filter (·.1 ≠ tag), e.2.Sound :=
        fun e he => sound e (List.mem_of_mem_filter he)
      have takes : ∀ e ∈ ms.filter (·.1 ≠ tag), e.1 ∈ fields.names →
          fields.Takes r .buffered 0 e.1 e.2 := fun e he known =>
        fields.takes_of_render distinctFields carry beside he known (soundBeside e he) nofun
      obtain ⟨s, read, finished⟩ := Fields.read_of_takes takes soundBeside beside
      refine ⟨name, 0, present, by simp [Variants.names, List.idxOf?_cons], ?_⟩
      rw [Variants.readMembers]
      simp only [bind, Except.bind, read, finished, pure, Except.pure, back]
    | none =>
      rw [taken] at carry render
      obtain ⟨found, i, present, known, read⟩ :=
        rest.readMembers_of_render distinct carry render sound
      have other : name ≠ found := fun same => by
        have mem : found ∈ rest.names := by
          rw [← List.isSome_idxOf?, known]
          rfl
        exact unique (same ▸ mem)
      refine ⟨found, i + 1, present, by simp [Variants.names, List.idxOf?_cons, other, known], ?_⟩
      rw [Variants.readMembers, read]

end

end BuildDispatch.Data
