import BuildDispatch.Proofs.Data.Written
import BuildDispatch.Proofs.Json.Document

/-!
Texts of typed values. The compact text of a value is one text of its document
(`Json.isText_render`); every text of every document of a value is read as that value
(`Json.decode_of_renders`), its compact text among them (`Json.decode_encode`).
-/
namespace BuildDispatch.Json

open Data

mutual

theorem Spells.sound {s rest : Bytes} {d : Data.Document} : Spells s d rest → d.Sound
  | .blank _ value => value.sound
  | .null | .true | .false => ⟨_, rfl⟩
  | .number (x := x) _ bounded => by
    rw [Document.Sound]
    exact ⟨x.exists_number bounded, rfl⟩
  | .text _ => ⟨⟨_, rfl⟩, rfl⟩
  | .list elements => by
    rw [Document.Sound]
    exact elements.sound
  | .object members => by
    rw [Document.Sound]
    exact members.sound

theorem SpellsItems.sound {first : Bool} {s rest : Bytes} {items : Items} :
    SpellsItems first s items rest → items.Sound
  | .blank _ elements => elements.sound
  | .close => rfl
  | .first value more | .next value more => by
    rw [Items.Sound]
    exact ⟨value.sound, more.sound⟩

theorem SpellsMembers.sound {first : Bool} {s rest : Bytes} {ms : Members} :
    SpellsMembers first s ms rest → ms.Sound
  | .blank _ members => members.sound
  | .close => rfl
  | .first _ _ value more | .next _ _ value more => by
    rw [Members.Sound]
    exact ⟨⟨_, rfl⟩, rfl, value.sound, more.sound⟩

end

theorem colon_append (rest : Bytes) : Colon (0x3A :: rest) rest := ⟨[], rfl, by simp⟩

theorem spells_key (k : String) (rest : Bytes) : Spells (quote k ++ rest) (.ofString k) rest := by
  obtain ⟨t, ht, quoted⟩ := spelled_quote k rest
  have spelled := Spells.text quoted
  rwa [String.ofList_toList, ← ht] at spelled

mutual

theorem spells_render : (v : Value) → (rest : Bytes) →
    Spells (render v ++ rest) (.ofValue v) rest
  | .null, _ => .null
  | .flag true, _ => .true
  | .flag false, _ => .false
  | .whole n, rest => by
    have spelled := Spells.number (spelled_decimal n.toNat rest) (isOverflow_decimal n)
    rwa [number_decimal] at spelled
  | .text s, rest => spells_key s rest
  | .list [], rest => .list .close
  | .list (v :: vs), rest => by
    rw [render, Document.ofValue, Items.ofValues]
    simp only [List.cons_append, List.append_assoc]
    exact .list (.first (spells_render v _) (spells_renderItems vs rest))
  | .object [], rest => .object .close
  | .object ((k, v) :: ms), rest => by
    rw [render, Document.ofValue, Members.ofValues]
    simp only [List.cons_append, List.append_assoc]
    exact .object (.first (spells_key k _) (colon_append _) (spells_render v _)
      (spells_renderMembers ms rest))

theorem spells_renderItems : (vs : List Value) → (rest : Bytes) →
    SpellsItems false (renderItems vs ++ rest) (.ofValues vs) rest
  | [], _ => .close
  | v :: vs, rest => by
    rw [renderItems, Items.ofValues]
    simp only [List.cons_append, List.append_assoc]
    exact .next (spells_render v _) (spells_renderItems vs rest)

theorem spells_renderMembers : (ms : List (String × Value)) → (rest : Bytes) →
    SpellsMembers false (renderMembers ms ++ rest) (.ofValues ms) rest
  | [], _ => .close
  | (k, v) :: ms, rest => by
    rw [renderMembers, Members.ofValues]
    simp only [List.cons_append, List.append_assoc]
    exact .next (spells_key k _) (colon_append _) (spells_render v _)
      (spells_renderMembers ms rest)

end

/-- The compact text of a value is a text of its document. -/
theorem isText_render (v : Value) : IsText (render v) (.ofValue v) := by
  have spelled := spells_render v []
  rw [List.append_nil] at spelled
  exact ⟨[], spelled, by simp⟩

variable {α : Type} {format : Format α} {a : α}

/-- Every text of every document of a value is read as that value. -/
theorem decode_of_renders {s : Bytes} {d : Data.Document} (carries : format.Carries a)
    (renders : format.Renders a d) (shallow : d.levels < depthLimit) (text : IsText s d) :
    decode format s = .ok a := by
  have laid := lay_of_isText text
  obtain ⟨rest, spelled, -⟩ := text
  have sound := spelled.sound
  have read : format.read .direct depthLimit d = .ok a :=
    format.read_of_renders carries renders sound fun _ => shallow
  unfold decode
  rw [laid]
  simp only [read, met, bind, Except.bind, pure, Except.pure]

/-- A value is read back from its compact text. -/
theorem decode_encode (carries : format.Carries a) (shallow : format.levels < depthLimit) :
    decode format (encode format a) = .ok a :=
  decode_of_renders carries (format.renders_write carries)
    (Nat.lt_of_le_of_lt (format.levels_write a) shallow) (isText_render _)

end BuildDispatch.Json
