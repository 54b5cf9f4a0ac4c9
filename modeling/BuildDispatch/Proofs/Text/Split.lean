import Mathlib.Data.String.Basic

/-! Texts split at a character are lists of characters split there (`Text.splitOn_singleton`). -/
namespace BuildDispatch.Text

open String (ofList utf8Len utf8Len_nil utf8Len_cons utf8Len_append splitOnAux get_of_valid
  next_of_valid extract_of_valid)

theorem atEnd_ofList (text : List Char) (n : Nat) :
    String.Pos.Raw.atEnd (ofList text) ⟨n⟩ = decide (utf8Len text ≤ n) := by
  rw [Bool.eq_iff_iff, String.atEnd_iff, String.rawEndPos_ofList, decide_eq_true_iff]
  rfl

/-- The scan for one character, in the middle of a part. -/
theorem splitOnAux_ofList (c : Char) (before part rest : List Char) (done : List String) :
    splitOnAux (ofList (before ++ part ++ rest)) (ofList [c]) ⟨utf8Len before⟩
        ⟨utf8Len before + utf8Len part⟩ 0 done =
      done.reverse ++ (List.splitOnPPrepend (· == c) rest part.reverse).map ofList := by
  induction rest generalizing before part done with
  | nil =>
    have ended : String.Pos.Raw.atEnd (ofList (before ++ part ++ []))
        ⟨utf8Len before + utf8Len part⟩ = true := by
      rw [atEnd_ofList]
      simp
    unfold splitOnAux
    rw [if_pos ended, extract_of_valid]
    simp
  | cons d rest ih =>
    have more : ¬String.Pos.Raw.atEnd (ofList (before ++ part ++ d :: rest))
        ⟨utf8Len before + utf8Len part⟩ = true := by
      have := d.utf8Size_pos
      rw [atEnd_ofList]
      simp only [utf8Len_append, utf8Len_cons, decide_eq_true_iff]
      omega
    have here := get_of_valid (before ++ part) (d :: rest)
    have next := next_of_valid (before ++ part) d rest
    have separator : String.Pos.Raw.get (ofList [c]) 0 = c := get_of_valid [] [c]
    have past : String.Pos.Raw.next (ofList [c]) 0 = ⟨c.utf8Size⟩ := by
      simpa using next_of_valid [] c []
    rw [utf8Len_append] at here next
    unfold splitOnAux
    rw [if_neg more, here, separator, next, past, List.headD_cons, List.splitOnPPrepend_cons_eq_if]
    by_cases same : d = c
    · subst same
      have whole : String.Pos.Raw.atEnd (ofList [d]) ⟨d.utf8Size⟩ = true := by
        rw [atEnd_ofList]
        simp
      have back : String.Pos.Raw.unoffsetBy ⟨utf8Len before + utf8Len part + d.utf8Size⟩
          ⟨d.utf8Size⟩ = ⟨utf8Len before + utf8Len part⟩ := by simp [String.Pos.Raw.unoffsetBy]
      have found := ih (before ++ part ++ [d]) [] (ofList part :: done)
      simp only [List.append_assoc, List.singleton_append, utf8Len_append, utf8Len_cons,
        utf8Len_nil, Nat.zero_add, Nat.add_zero, ← Nat.add_assoc] at found
      rw [if_pos (beq_self_eq_true d), if_pos (beq_self_eq_true d), if_pos whole, back,
        extract_of_valid, List.append_assoc, found]
      simp
    · have passed := ih before (part ++ [d]) done
      simp only [List.append_assoc, List.singleton_append, utf8Len_append, utf8Len_cons,
        utf8Len_nil, Nat.zero_add, ← Nat.add_assoc] at passed
      rw [if_neg (by simpa using same), if_neg (by simpa using same)]
      change splitOnAux _ _ _ (String.Pos.Raw.next _ ⟨utf8Len before + utf8Len part⟩) 0 done = _
      rw [next, List.append_assoc, passed]
      simp

theorem splitOn_singleton (text : String) (c : Char) :
    text.splitOn (ofList [c]) = (text.toList.splitOn c).map ofList := by
  have scan := splitOnAux_ofList c [] [] text.toList []
  unfold String.splitOn
  rw [if_neg (by simp), List.splitOn_eq_splitOnP]
  simpa using scan

end BuildDispatch.Text
