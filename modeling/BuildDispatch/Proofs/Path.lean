import BuildDispatch.Path
import Mathlib.Data.List.Basic

/-! A path with another extension is another path (`Path.withExtension_ne`). -/
namespace BuildDispatch.Path

theorem untrailed_of_plain {c : Char} {rest : List Char} (slash : c ≠ '/') (point : c ≠ '.') :
    untrailed (c :: rest) = c :: rest := by
  unfold untrailed
  split
  · simp_all
  · simp_all
  · rfl

/-- A path that ends in a plain character is what it is cut into. -/
theorem cut_append {path : String} {c : Char} {rest : List Char}
    (last : path.toList.reverse = c :: rest) (slash : c ≠ '/') (point : c ≠ '.') :
    (cut path).1 ++ (cut path).2 = path.toList := by
  have whole : untrailed path.toList.reverse = path.toList.reverse := by
    rw [last, untrailed_of_plain slash point]
  unfold cut
  rw [whole]
  dsimp only
  rw [← List.reverse_append, List.takeWhile_append_dropWhile, List.reverse_reverse]

theorem toList_of_fileName {path name : String} (h : fileName? path = some name) :
    name.toList = (cut path).2 := by
  unfold fileName? at h
  dsimp only at h
  split_ifs at h
  rw [← Option.some.inj h, String.toList_ofList]

theorem cutName_cases (name : String) : cutName name = (name.toList, none) ∨
    ∃ stem extension, cutName name = (stem, some extension) ∧
      name.toList = stem ++ '.' :: extension := by
  unfold cutName
  have whole := List.takeWhile_append_dropWhile (p := (· ≠ '.')) (l := name.toList.reverse)
  dsimp only
  split
  case h_1 c stem cut =>
    refine .inr ⟨_, _, rfl, ?_⟩
    rw [cut] at whole
    simpa using (congrArg List.reverse whole).symm
  case h_2 => exact .inl rfl

theorem withExtension_ne {path extension : String} (named : (fileName? path).isSome = true)
    (other : extension? path ≠ some extension) {c : Char} {rest : List Char}
    (last : extension.toList.reverse = c :: rest) (slash : c ≠ '/') (point : c ≠ '.') :
    withExtension path extension ≠ path := by
  intro same
  obtain ⟨name, file⟩ := Option.isSome_iff_exists.1 named
  have nonempty : extension ≠ "" := by
    rintro rfl
    cases last
  have text : (cut path).1 ++ (cutName name).1 ++ '.' :: extension.toList = path.toList := by
    rw [← congrArg String.toList same]
    simp [withExtension, file, nonempty]
  have ends : path.toList.reverse =
      c :: (rest ++ '.' :: ((cut path).1 ++ (cutName name).1).reverse) := by
    rw [← text]
    simp [last]
  have whole := cut_append ends slash point
  rw [← toList_of_fileName file, ← text, List.append_assoc] at whole
  have cutting := List.append_cancel_left whole
  rcases cutName_cases name with uncut | ⟨stem, found, cut, parts⟩
  · rw [uncut] at cutting
    simpa using congrArg List.length cutting
  · rw [cut, parts] at cutting
    have here : found = extension.toList := List.cons.inj (List.append_cancel_left cutting) |>.2
    refine other ?_
    simp [extension?, file, cut, here]

end BuildDispatch.Path
