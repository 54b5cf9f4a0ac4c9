import BuildDispatch.Proofs.Data.Format

/-!
The written form of a value is one of its documents (`Format.renders_write`), and it nests no deeper
than its format (`Format.levels_write`).
-/
namespace BuildDispatch.Data

theorem Fields.mem_names_of_write {ρ σ : Type} {k : String} :
    (fields : Fields ρ σ) → (r : ρ) → k ∈ (ofMembers (fields.write r)).map Prod.fst →
      k ∈ fields.names
  | .nil, _, h => h
  | .cons name f _ hidden rest, (a, r), h => by
    rw [Fields.write] at h
    split_ifs at h
    · exact List.mem_cons_of_mem _ (rest.mem_names_of_write r h)
    · rcases List.mem_cons.1 h with rfl | h
      · exact List.mem_cons_self
      · exact List.mem_cons_of_mem _ (rest.mem_names_of_write r h)

mutual

/-- The written form of a value is one of its documents. -/
theorem Format.renders_write {α : Type} (f : Format α) {a : α} (carries : f.Carries a) :
    f.Renders a (.ofValue (f.write a)) := by
  match f, a, carries with
  | .flag, _, _ | .word _, _, _ | .text, _, _ | .named _ _, _, _ =>
    rw [Format.Renders, Format.write, Document.ofValue]
  | .option f, none, _ => rw [Format.Renders, Format.write, Document.ofValue]
  | .option f, some a, carries =>
    rw [Format.Carries] at carries
    rw [Format.Renders, Format.write]
    exact f.renders_write (carries.2 a rfl)
  | .list f, as, carries =>
    rw [Format.Carries] at carries
    rw [Format.Renders, Format.write, ofValue_list]
    refine ⟨_, rfl, ?_⟩
    rw [List.map_map, List.forall₂_map_right_iff, List.forall₂_same]
    exact fun a ha => f.renders_write (carries a ha)
  | .keys, s, _ =>
    rw [Format.Renders, Format.write, ofValue_list, List.map_map]
    rfl
  | .map f, t, carries =>
    rw [Format.Carries] at carries
    rw [Format.Renders, Format.write, ofValue_object]
    refine ⟨_, t.entries, rfl, .refl _, ?_⟩
    rw [ofMembers, List.map_map, List.forall₂_map_right_iff, List.forall₂_same]
    exact fun e he => ⟨rfl, f.renders_write (carries e he)⟩
  | .record fields build parts, a, carries =>
    rw [Format.Carries] at carries
    rw [Format.Renders, Format.write, ofValue_object]
    exact ⟨_, rfl, fields.render_write carries.2.1 carries.2.2 fun _ _ => rfl⟩
  | .tagged tag variants, a, carries =>
    rw [Format.Carries] at carries
    rw [Format.Renders, Format.write, ofValue_object]
    exact ⟨_, rfl, variants.render_write carries.2⟩
  | .via f build parts, b, carries =>
    rw [Format.Carries] at carries
    rw [Format.Renders, Format.write]
    exact f.renders_write carries.2

theorem Fields.render_write {ρ σ : Type} (fields : Fields ρ σ) {r : ρ}
    {ms : List (String × Document)} (distinct : fields.names.Nodup) (carry : fields.Carry r)
    (same : ∀ name ∈ fields.names, under name ms = under name (ofMembers (fields.write r))) :
    fields.Render r ms := by
  match fields, r, distinct, carry, same with
  | .nil, _, _, _, _ => rw [Fields.Render]; trivial
  | .cons name f absence hidden rest, (a, r), distinct, carry, same =>
    rw [Fields.Carry] at carry
    obtain ⟨carriesHere, stands, carry⟩ := carry
    obtain ⟨unique, distinct⟩ := List.nodup_cons.1 distinct
    have apart : under name (ofMembers (rest.write r)) = [] :=
      under_eq_nil.2 (mt (rest.mem_names_of_write r) unique)
    have here := same name List.mem_cons_self
    have later : ∀ n ∈ rest.names, under n ms = under n (ofMembers (rest.write r)) :=
      fun n hn => by
        rw [same n (List.mem_cons_of_mem _ hn), Fields.write]
        split_ifs
        · rfl
        · exact (under_cons ..).trans (if_neg (ne_of_mem_of_not_mem hn unique).symm)
    rw [Fields.Render]
    refine ⟨?_, rest.render_write distinct carry later⟩
    rw [Fields.write] at here
    split_ifs at here with isHidden
    · exact .inr ⟨here.trans apart, stands isHidden⟩
    · refine .inl ⟨.ofValue (f.write a), ?_, f.renders_write carriesHere⟩
      rw [here]
      exact (under_cons ..).trans ((if_pos rfl).trans (congrArg _ apart))

theorem Variants.render_write {α : Type} (variants : Variants α) {tag : String} {a : α}
    (carry : variants.Carry tag a) : variants.Render tag a (ofMembers (variants.write tag a)) := by
  match variants, carry with
  | .nil, carry => cases carry
  | .cons name fields build parts rest, carry =>
    rw [Variants.Carry] at carry
    rw [Variants.Render, Variants.write]
    cases taken : parts a with
    | none =>
      rw [taken] at carry
      exact rest.render_write carry
    | some r =>
      rw [taken] at carry
      obtain ⟨-, apart, distinct, carry⟩ := carry
      have absent : under tag (ofMembers (fields.write r)) = [] :=
        under_eq_nil.2 (mt (fields.mem_names_of_write r) apart)
      refine ⟨?_, fields.render_write distinct carry fun n hn => ?_⟩
      · exact (under_cons ..).trans ((if_pos rfl).trans (congrArg _ absent))
      · exact (under_cons ..).trans (if_neg (ne_of_mem_of_not_mem hn apart).symm)

end

mutual

def Format.levels {α : Type} : Format α → Nat
  | .option format => format.levels
  | .list format => format.levels + 1
  | .keys => 1
  | .map format => format.levels + 1
  | .record fields _ _ => fields.levels + 1
  | .tagged _ variants => variants.levels + 1
  | .via format _ _ => format.levels
  | _ => 0

def Fields.levels {ρ σ : Type} : Fields ρ σ → Nat
  | .nil => 0
  | .cons _ format _ _ rest => max format.levels rest.levels

def Variants.levels {α : Type} : Variants α → Nat
  | .nil => 0
  | .cons _ fields _ _ rest => max fields.levels rest.levels

end

mutual

theorem Format.levels_write {α : Type} (f : Format α) (a : α) :
    (Document.ofValue (f.write a)).levels ≤ f.levels := by
  match f, a with
  | .flag, _ | .word _, _ | .text, _ | .named _ _, _ =>
    rw [Format.write, Document.ofValue]
    exact Nat.zero_le _
  | .option f, none =>
    rw [Format.write, Document.ofValue]
    exact Nat.zero_le _
  | .option f, some a =>
    rw [Format.write, Format.levels]
    exact f.levels_write a
  | .list f, as =>
    rw [Format.write, ofValue_list, Format.levels, Document.levels, Nat.add_le_add_iff_right,
      Items.levels_ofList, List.map_map, List.forall_mem_map]
    exact fun a _ => f.levels_write a
  | .keys, s =>
    rw [Format.write, ofValue_list, Format.levels, Document.levels, Nat.add_le_add_iff_right,
      Items.levels_ofList, List.map_map, List.forall_mem_map]
    exact fun _ _ => Nat.le_refl 0
  | .map f, t =>
    rw [Format.write, ofValue_object, Format.levels, Document.levels, Nat.add_le_add_iff_right,
      Members.levels_ofList, ofMembers, List.map_map, List.forall_mem_map]
    exact fun e _ => f.levels_write e.2
  | .record fields build parts, a =>
    rw [Format.write, ofValue_object, Format.levels, Document.levels, Nat.add_le_add_iff_right,
      Members.levels_ofList]
    exact fields.levels_write (parts a)
  | .tagged tag variants, a =>
    rw [Format.write, ofValue_object, Format.levels, Document.levels, Nat.add_le_add_iff_right,
      Members.levels_ofList]
    exact variants.levels_write tag a
  | .via f build parts, b =>
    rw [Format.write, Format.levels]
    exact f.levels_write (parts b)

theorem Fields.levels_write {ρ σ : Type} (fields : Fields ρ σ) (r : ρ) :
    ∀ e ∈ ofMembers (fields.write r), e.2.levels ≤ fields.levels := by
  match fields, r with
  | .nil, _ => rintro e ⟨⟩
  | .cons name f _ hidden rest, (a, r) =>
    have later : ∀ e ∈ ofMembers (rest.write r), e.2.levels ≤ max f.levels rest.levels :=
      fun e he => Nat.le_trans (rest.levels_write r e he) (Nat.le_max_right ..)
    rw [Fields.write, Fields.levels]
    split_ifs
    · exact later
    · exact List.forall_mem_cons.2 ⟨Nat.le_trans (f.levels_write a) (Nat.le_max_left ..), later⟩

theorem Variants.levels_write {α : Type} (variants : Variants α) (tag : String) (a : α) :
    ∀ e ∈ ofMembers (variants.write tag a), e.2.levels ≤ variants.levels := by
  match variants with
  | .nil => rintro e ⟨⟩
  | .cons name fields build parts rest =>
    rw [Variants.write, Variants.levels]
    cases parts a with
    | none => exact fun e he => Nat.le_trans (rest.levels_write tag a e he) (Nat.le_max_right ..)
    | some r =>
      refine List.forall_mem_cons.2 ⟨Nat.zero_le _, fun e he => ?_⟩
      exact Nat.le_trans (fields.levels_write r e he) (Nat.le_max_left ..)

end

end BuildDispatch.Data
