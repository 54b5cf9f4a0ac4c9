import BuildDispatch.Cause.Inspect
import BuildDispatch.Proofs.Table
import BuildDispatch.Proofs.Text.Inspect

/-!
Variables and trigger options shown for inspection. What is shown does not depend on secure values,
and all the rest can be read off it (`inspection_hides_only_secrets`).
-/
namespace BuildDispatch

open Text (Kind Shape FieldsOf)

theorem Variable.shape_of (v : Variable) : Shape.Of
    (.record "EnvironmentVariable" [("name", .text), ("value", .text), ("secure", .truth)])
    v.shape :=
  .record _ (.cons _ (.text _) (.cons _ (.text _) (.cons _ (.truth v.secure) .nil)))

theorem shape_of_texts (entries : List (String × String)) (shown : String × String → String) :
    Shape.Of (.map .text) (.map (entries.map fun e => (e.1, .text (shown e)))) := by
  refine .map fun e he => ?_
  obtain ⟨x, -, rfl⟩ := List.mem_map.1 he
  exact .text _

theorem TriggerOptions.shape_of (o : TriggerOptions) : Shape.Of
    (.record "ScheduleOptions" [("revisions", .map .text), ("variables", .map .text),
      ("secure_variables", .map .text)]) o.shape :=
  .record _ (.cons _ (shape_of_texts _ (·.2)) (.cons _ (shape_of_texts _ (·.2))
    (.cons _ (shape_of_texts _ fun _ => Variable.mask) .nil)))

theorem Variable.shape_eq_iff {v w : Variable} : v.shape = w.shape ↔
    v.name = w.name ∧ v.secure = w.secure ∧ (v.secure = false → v.value = w.value) := by
  have words : ∀ a b : Bool, (if a then "true" else "false") = (if b then "true" else "false") →
      a = b := by decide
  constructor
  · intro same
    simp only [shape, Shape.record.injEq, List.cons.injEq, Prod.mk.injEq, Shape.text.injEq,
      Shape.word.injEq, true_and, and_true] at same
    obtain ⟨names, values, flags⟩ := same
    have secure : v.secure = w.secure := words _ _ flags
    refine ⟨names, secure, fun plain => ?_⟩
    simpa [shownValue, ← secure, plain] using values
  · rintro ⟨names, secure, values⟩
    have shown : v.shownValue = w.shownValue := by
      unfold shownValue
      rw [← secure]
      cases flag : v.secure with
      | true => rfl
      | false => exact values flag
    unfold shape
    rw [names, secure, shown]

theorem shapeOfTexts_inj {t u : Table String String} (h : shapeOfTexts t = shapeOfTexts u) :
    t = u := by
  have entry : Function.Injective fun e : String × String => (e.1, Shape.text e.2) := by
    rintro ⟨a, x⟩ ⟨b, y⟩ same
    simpa using same
  have entries : t.entries = u.entries := List.map_injective_iff.2 entry (Shape.map.inj h)
  cases t
  cases u
  cases entries
  rfl

/-- Of secure variables only the names are shown. -/
theorem shapeOfSecrets_eq_iff {t u : Table String String} :
    shapeOfSecrets t = shapeOfSecrets u ↔ ∀ name, t.contains name = u.contains name := by
  have masked (t : Table String String) :
      shapeOfSecrets t = .map (t.keys.map fun name => (name, .text Variable.mask)) := by
    simp only [shapeOfSecrets, Table.keys, List.map_map, Function.comp_def]
  have entry : Function.Injective fun name : String => (name, Shape.text Variable.mask) :=
    fun a b same => (Prod.mk.inj same).1
  rw [masked, masked]
  constructor
  · intro same name
    have keys : t.keys = u.keys := List.map_injective_iff.2 entry (Shape.map.inj same)
    rw [Bool.eq_iff_iff, ← Table.mem_keys, ← Table.mem_keys, keys]
  · intro same
    rw [Table.keys_eq_of_contains same]

theorem TriggerOptions.shape_eq_iff {o p : TriggerOptions} : o.shape = p.shape ↔
    o.revisions = p.revisions ∧ o.plain = p.plain ∧
      ∀ name, o.secure.contains name = p.secure.contains name := by
  rw [← shapeOfSecrets_eq_iff]
  constructor
  · intro same
    simp only [shape, Shape.record.injEq, List.cons.injEq, Prod.mk.injEq, true_and,
      and_true] at same
    obtain ⟨revisions, plain, secure⟩ := same
    exact ⟨shapeOfTexts_inj revisions, shapeOfTexts_inj plain, secure⟩
  · rintro ⟨revisions, plain, secure⟩
    unfold shape
    rw [revisions, plain, secure]

/--
Two requests are shown alike, on one line or over several, just if they have the same revisions and
variables, and secure variables of the same names. Two variables are shown alike just if they have
the same name, are both secure or both not, and have the same value if they are not.
-/
theorem inspection_hides_only_secrets (o p : TriggerOptions) (v w : Variable) :
    let sameOptions := o.revisions = p.revisions ∧ o.plain = p.plain ∧
      ∀ name, o.secure.contains name = p.secure.contains name
    let sameVariable := v.name = w.name ∧ v.secure = w.secure ∧
      (v.secure = false → v.value = w.value)
    ((o.shape.compact = p.shape.compact ↔ sameOptions) ∧
      (o.shape.spread = p.shape.spread ↔ sameOptions)) ∧
    (v.shape.compact = w.shape.compact ↔ sameVariable) ∧
      (v.shape.spread = w.shape.spread ↔ sameVariable) := by
  intro sameOptions sameVariable
  have options : o.shape = p.shape ↔ sameOptions := TriggerOptions.shape_eq_iff
  have both : v.shape = w.shape ↔ sameVariable := Variable.shape_eq_iff
  refine ⟨⟨?_, ?_⟩, ?_, ?_⟩
  · exact (o.shape_of.compact_eq_iff p.shape_of).trans options
  · exact (o.shape_of.spread_eq_iff p.shape_of).trans options
  · exact (v.shape_of.compact_eq_iff w.shape_of).trans both
  · exact (v.shape_of.spread_eq_iff w.shape_of).trans both

end BuildDispatch
