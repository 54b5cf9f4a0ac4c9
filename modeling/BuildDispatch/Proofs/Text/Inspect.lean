import BuildDispatch.Text.Inspect
import Mathlib.Data.List.TakeWhile

/-!
What is shown for inspection can be read back. A text between quotes ends at the first quote that is
not escaped, and values of one kind that are shown alike are the same, on one line
(`Shape.Of.compact_eq_iff`) as well as over several (`Shape.Of.spread_eq_iff`).
-/
namespace BuildDispatch.Text

/-! Characters. -/

def hexValue (d : Char) : Nat :=
  if d.toNat < 'a'.toNat then d.toNat - '0'.toNat else d.toNat - 'a'.toNat + 10

def hexNumber (digits : List Char) : Nat := digits.foldl (fun n d => n * 16 + hexValue d) 0

theorem hexValue_hexDigit : ∀ n < 16, hexValue (Bytes.hexDigit n) = n := by decide

theorem hexDigit_ne_brace : ∀ n < 16, Bytes.hexDigit n ≠ '\x7d' := by decide

theorem hexNumber_hexDigits (n : Nat) : hexNumber (hexDigits n) = n := by
  induction n using hexDigits.induct with
  | case1 n small =>
    rw [hexDigits, if_pos small]
    simpa [hexNumber] using hexValue_hexDigit n small
  | case2 n large ih =>
    have last : n % 16 < 16 := Nat.mod_lt n (by omega)
    unfold hexNumber at ih
    rw [hexDigits, if_neg large, hexNumber, List.foldl_append, ih]
    simp only [List.foldl_cons, List.foldl_nil, hexValue_hexDigit _ last]
    omega

theorem brace_notMem_hexDigits (n : Nat) : '\x7d' ∉ hexDigits n := by
  induction n using hexDigits.induct with
  | case1 n small =>
    rw [hexDigits, if_pos small, List.mem_singleton]
    exact (hexDigit_ne_brace n small).symm
  | case2 n large ih =>
    have last : n % 16 < 16 := Nat.mod_lt n (by omega)
    rw [hexDigits, if_neg large, List.mem_append, List.mem_singleton]
    rintro (before | same)
    · exact ih before
    · exact hexDigit_ne_brace _ last same.symm

/-- Reads the first character of what is shown between quotes. -/
def readShown : List Char → Option (Char × List Char)
  | [] => none
  | '\\' :: '"' :: rest => some ('"', rest)
  | '\\' :: '\\' :: rest => some ('\\', rest)
  | '\\' :: 'n' :: rest => some ('\n', rest)
  | '\\' :: 'r' :: rest => some ('\r', rest)
  | '\\' :: 't' :: rest => some ('\t', rest)
  | '\\' :: '0' :: rest => some (Char.ofNat 0, rest)
  | '\\' :: 'u' :: '\x7b' :: rest =>
    some (Char.ofNat (hexNumber (rest.takeWhile (· ≠ '\x7d'))),
      (rest.dropWhile (· ≠ '\x7d')).tail)
  | c :: rest => some (c, rest)

theorem readShown_inspectChar (c : Char) (rest : List Char) :
    readShown (inspectChar c ++ rest) = some (c, rest) := by
  unfold inspectChar
  split_ifs with quote backslash newline back tab zero invisible
  · rw [quote]
    rfl
  · rw [backslash]
    rfl
  · rw [newline]
    rfl
  · rw [back]
    rfl
  · rw [tab]
    rfl
  · have null : Char.ofNat c.toNat = c := Char.ofNat_toNat c
    rw [zero] at null
    rw [← null]
    rfl
  · have digits : ∀ d ∈ hexDigits c.toNat, decide (d ≠ '\x7d') = true := by
      intro d hd
      have other : d ≠ '\x7d' := fun same => brace_notMem_hexDigits c.toNat (same ▸ hd)
      exact decide_eq_true other
    have shown : ['\\', 'u', '\x7b'] ++ hexDigits c.toNat ++ ['\x7d'] ++ rest =
        '\\' :: 'u' :: '\x7b' :: (hexDigits c.toNat ++ '\x7d' :: rest) := by simp
    rw [shown]
    simp only [readShown, List.takeWhile_append_of_pos digits, List.dropWhile_append_of_pos digits]
    simp [hexNumber_hexDigits, Char.ofNat_toNat]
  · unfold readShown
    split <;> simp_all

theorem inspectChar_append_inj {a b : Char} {r s : List Char}
    (h : inspectChar a ++ r = inspectChar b ++ s) : a = b ∧ r = s := by
  have read := congrArg readShown h
  rw [readShown_inspectChar, readShown_inspectChar] at read
  simpa using read

/-- A quote is shown with an escape. -/
theorem inspectChar_append_ne_quote (c : Char) (r s : List Char) :
    inspectChar c ++ r ≠ '"' :: s := by
  unfold inspectChar
  split_ifs with quote <;> simp [*]

/-- What is shown between quotes ends at the first quote without an escape. -/
theorem inspected_inj {a b : List Char} {r s : List Char}
    (h : a.flatMap inspectChar ++ '"' :: r = b.flatMap inspectChar ++ '"' :: s) :
    a = b ∧ r = s := by
  induction a generalizing b with
  | nil =>
    cases b with
    | nil => exact ⟨rfl, (List.cons.inj h).2⟩
    | cons d b =>
      rw [List.flatMap_cons, List.append_assoc] at h
      exact absurd h.symm (inspectChar_append_ne_quote d _ _)
  | cons c a ih =>
    cases b with
    | nil =>
      rw [List.flatMap_cons, List.append_assoc] at h
      exact absurd h (inspectChar_append_ne_quote c _ _)
    | cons d b =>
      rw [List.flatMap_cons, List.flatMap_cons, List.append_assoc, List.append_assoc] at h
      obtain ⟨rfl, rest⟩ := inspectChar_append_inj h
      obtain ⟨rfl, after⟩ := ih rest
      exact ⟨rfl, after⟩

/-! Texts that tell what they show. -/

/-- Whatever follows two texts, it can be told where they end, and they differ unless `p` holds. -/
def Tells (p : Prop) (x y : String) : Prop :=
  ∀ r s : List Char, x.toList ++ r = y.toList ++ s → p ∧ r = s

namespace Tells

variable {p q : Prop} {x y x' y' : String}

theorem of_eq (h : Tells p x y) (same : x = y) : p := by
  refine (h [] [] ?_).1
  rw [same]

/-- What is told of two texts when they begin the same one. -/
theorem split (h : Tells p x y) (same : x ++ x' = y ++ y') : p ∧ x' = y' := by
  have texts := congrArg String.toList same
  rw [String.toList_append, String.toList_append] at texts
  obtain ⟨hp, rest⟩ := h _ _ texts
  exact ⟨hp, String.toList_inj.1 rest⟩

theorem imp (h : Tells p x y) (f : p → q) : Tells q x y := by
  intro r s same
  obtain ⟨hp, rest⟩ := h r s same
  exact ⟨f hp, rest⟩

theorem append (first : Tells p x y) (second : p → Tells q x' y') :
    Tells (p ∧ q) (x ++ x') (y ++ y') := by
  intro r s same
  rw [String.toList_append, String.toList_append, List.append_assoc, List.append_assoc] at same
  obtain ⟨hp, later⟩ := first _ _ same
  obtain ⟨hq, rest⟩ := second hp r s later
  exact ⟨⟨hp, hq⟩, rest⟩

theorem refl (x : String) : Tells True x x :=
  fun _ _ same => ⟨trivial, List.append_cancel_left same⟩

theorem after (x : String) (h : Tells p y y') : Tells p (x ++ y) (x ++ y') :=
  ((refl x).append fun _ => h).imp And.right

theorem before (h : Tells p x x') (y : String) : Tells p (x ++ y) (x' ++ y) :=
  (h.append fun _ => refl y).imp And.left

theorem of_ne {c d : Char} {xs ys : List Char} (hx : x.toList = c :: xs) (hy : y.toList = d :: ys)
    (differ : c ≠ d) : Tells p x y := by
  intro r s same
  rw [hx, hy] at same
  exact absurd (List.cons.inj same).1 differ

end Tells

theorem tells_inspectText (a b : String) : Tells (a = b) (inspectText a) (inspectText b) := by
  intro r s same
  have shown : a.toList.flatMap inspectChar ++ '"' :: r =
      b.toList.flatMap inspectChar ++ '"' :: s := by
    simpa [inspectText] using same
  obtain ⟨texts, rest⟩ := inspected_inj shown
  exact ⟨String.toList_inj.1 texts, rest⟩

/-! Values of one kind. -/

/-- A kind of value, as far as it decides the form in which a value is shown. -/
inductive Kind where
  | truth
  | text
  | record (name : String) (fields : List (String × Kind))
  | map (values : Kind)

mutual

/-- The shapes of the values of a kind. -/
inductive Shape.Of : Kind → Shape → Prop where
  | truth (b : Bool) : Shape.Of .truth (.word (if b then "true" else "false"))
  | text (s : String) : Shape.Of .text (.text s)
  | record (name : String) {kinds : List (String × Kind)} {fields : List (String × Shape)}
      (parts : FieldsOf kinds fields) : Shape.Of (.record name kinds) (.record name fields)
  | map {values : Kind} {entries : List (String × Shape)}
      (parts : ∀ e ∈ entries, Shape.Of values e.2) : Shape.Of (.map values) (.map entries)

inductive FieldsOf : List (String × Kind) → List (String × Shape) → Prop where
  | nil : FieldsOf [] []
  | cons (name : String) {kind : Kind} {v : Shape} {kinds : List (String × Kind)}
      {fields : List (String × Shape)} (head : Shape.Of kind v) (rest : FieldsOf kinds fields) :
      FieldsOf ((name, kind) :: kinds) ((name, v) :: fields)

end

theorem tells_truth (a b : Bool) : Tells (Shape.word (if a then "true" else "false") =
    .word (if b then "true" else "false")) (if a then "true" else "false")
    (if b then "true" else "false") := by
  cases a <;> cases b
  · exact (Tells.refl _).imp fun _ => rfl
  · exact .of_ne (c := 'f') (d := 't') rfl rfl (by decide)
  · exact .of_ne (c := 't') (d := 'f') rfl rfl (by decide)
  · exact (Tells.refl _).imp fun _ => rfl

theorem tells_text (a b : String) :
    Tells (Shape.text a = .text b) (inspectText a) (inspectText b) :=
  (tells_inspectText a b).imp (congrArg Shape.text)

theorem tells_entry {e e' : String × Shape} {x x' : String} (value : Tells (e.2 = e'.2) x x') :
    Tells (e = e') (inspectText e.1 ++ ": " ++ x) (inspectText e'.1 ++ ": " ++ x') := by
  have both := ((tells_inspectText e.1 e'.1).before ": ").append fun _ => value
  exact both.imp fun same => Prod.ext same.1 same.2

/-- What is shown of a map is told apart if what is shown of maps with entries is. -/
theorem tells_map (shown : List (String × Shape) → String) {first : Char}
    (closed : shown [] = "\x7d") (other : '\x7d' ≠ first)
    (opened : ∀ e rest, ∃ after, (shown (e :: rest)).toList = first :: after)
    {es es' : List (String × Shape)}
    (both : ∀ e rest e' rest', es = e :: rest → es' = e' :: rest' →
      Tells (es = es') (shown es) (shown es')) : Tells (es = es') (shown es) (shown es') := by
  have closed' : (shown []).toList = ['\x7d'] := by rw [closed]; rfl
  cases es with
  | nil =>
    cases es' with
    | nil => exact (Tells.refl _).imp fun _ => rfl
    | cons e' rest' =>
      obtain ⟨after, more⟩ := opened e' rest'
      exact .of_ne closed' more other
  | cons e rest =>
    cases es' with
    | nil =>
      obtain ⟨after, more⟩ := opened e rest
      exact .of_ne more closed' other.symm
    | cons e' rest' => exact both e rest e' rest' rfl rfl

/-! On one line. -/

/-- What follows the first entry of a map, with the end of the map. -/
def compactRest : List (String × Shape) → String
  | [] => "\x7d"
  | (key, v) :: rest => ", " ++ (inspectText key ++ ": " ++ v.compact ++ compactRest rest)

theorem compactEntries_cons (key : String) (v : Shape) (rest : List (String × Shape)) :
    compactEntries ((key, v) :: rest) ++ "\x7d" =
      inspectText key ++ ": " ++ v.compact ++ compactRest rest := by
  induction rest generalizing key v with
  | nil => rfl
  | cons e rest ih =>
    rw [compactEntries, String.append_assoc, ih, compactRest]
    simp only [String.append_assoc]
    simp

theorem tells_compactRest {es es' : List (String × Shape)}
    (parts : ∀ e ∈ es, ∀ e' ∈ es', Tells (e.2 = e'.2) e.2.compact e'.2.compact) :
    Tells (es = es') (compactRest es) (compactRest es') := by
  have opened (e : String × Shape) (rest : List (String × Shape)) :
      ∃ after, (compactRest (e :: rest)).toList = ',' :: after := by
    rw [compactRest, String.toList_append]
    exact ⟨_, rfl⟩
  induction es generalizing es' with
  | nil => exact tells_map compactRest rfl (by decide) opened nofun
  | cons e es ih =>
    refine tells_map compactRest rfl (by decide) opened ?_
    rintro _ _ e' rest' - rfl
    have head := tells_entry (parts e (.head _) e' (.head _))
    have rest : Tells (es = rest') (compactRest es) (compactRest rest') :=
      ih fun d hd d' hd' => parts d (.tail _ hd) d' (.tail _ hd')
    exact ((head.append fun _ => rest).after ", ").imp List.cons_eq_cons.2

theorem tells_compactEntries {es es' : List (String × Shape)}
    (parts : ∀ e ∈ es, ∀ e' ∈ es', Tells (e.2 = e'.2) e.2.compact e'.2.compact) :
    Tells (es = es') (compactEntries es ++ "\x7d") (compactEntries es' ++ "\x7d") := by
  have opened (e : String × Shape) (rest : List (String × Shape)) :
      ∃ after, (compactEntries (e :: rest) ++ "\x7d").toList = '"' :: after := by
    rw [compactEntries_cons]
    simp only [inspectText, String.toList_append, String.toList_ofList, List.cons_append]
    exact ⟨_, rfl⟩
  refine tells_map (fun es => compactEntries es ++ "\x7d") rfl (by decide) opened ?_
  rintro e rest e' rest' rfl rfl
  have head := tells_entry (parts e (.head _) e' (.head _))
  have later : Tells (rest = rest') (compactRest rest) (compactRest rest') :=
    tells_compactRest fun d hd d' hd' => parts d (.tail _ hd) d' (.tail _ hd')
  rw [compactEntries_cons, compactEntries_cons]
  exact (head.append fun _ => later).imp List.cons_eq_cons.2

mutual

/-- Values of one kind on one line. -/
theorem Shape.Of.tells_compact {k : Kind} {v w : Shape} (hv : Shape.Of k v) (hw : Shape.Of k w) :
    Tells (v = w) v.compact w.compact := by
  match hv, hw with
  | .truth a, .truth b => exact tells_truth a b
  | .text s, .text t => exact tells_text s t
  | .record name parts, .record _ parts' =>
    have fields := FieldsOf.tells_compact parts parts'
    exact ((fields.after (name ++ " \x7b ")).before " \x7d").imp (congrArg (Shape.record name))
  | .map parts, .map parts' =>
    have entries := tells_compactEntries fun e he e' he' =>
      Shape.Of.tells_compact (parts e he) (parts' e' he')
    have texts := entries.after "\x7b"
    rw [← String.append_assoc, ← String.append_assoc] at texts
    exact texts.imp (congrArg Shape.map)

theorem FieldsOf.tells_compact {kinds : List (String × Kind)} {fs gs : List (String × Shape)}
    (hf : FieldsOf kinds fs) (hg : FieldsOf kinds gs) :
    Tells (fs = gs) (compactFields fs) (compactFields gs) := by
  match hf, hg with
  | .nil, .nil => exact (Tells.refl _).imp fun _ => rfl
  | .cons name hv .nil, .cons _ hw .nil =>
    have value := (Shape.Of.tells_compact hv hw).after (name ++ ": ")
    exact value.imp fun same => by rw [same]
  | .cons name hv (.cons second hv' rest), .cons _ hw (.cons _ hw' rest') =>
    have value := ((Shape.Of.tells_compact hv hw).after (name ++ ": ")).before ", "
    have later := FieldsOf.tells_compact (.cons second hv' rest) (.cons second hw' rest')
    exact (value.append fun _ => later).imp fun same => by rw [same.1, same.2]

end

/-! Over several lines. -/

/-- A line break is followed by blanks, and every other character stays as it is. -/
def pad (c : Char) : List Char := if c = '\n' then '\n' :: List.replicate 4 ' ' else [c]

theorem toList_indent (x : String) : (indent x).toList = x.toList.flatMap pad :=
  String.toList_ofList

theorem indent_append (x y : String) : indent (x ++ y) = indent x ++ indent y := by
  simp [indent]

theorem pad_append_inj {c d : Char} {r s : List Char} (h : pad c ++ r = pad d ++ s) :
    c = d ∧ r = s := by
  unfold pad at h
  split_ifs at h with hc hd hd
  · exact ⟨hc.trans hd.symm, List.append_cancel_left h⟩
  · exact absurd (List.cons.inj h).1.symm hd
  · exact absurd (List.cons.inj h).1 hc
  · exact List.cons.inj h

theorem pad_append_ne (c : Char) (r s : List Char) : pad c ++ r ≠ '\n' :: '\x7d' :: s := by
  unfold pad
  split_ifs with hc
  · exact fun same => absurd (List.cons.inj (List.cons.inj same).2).1 (by decide)
  · exact fun same => hc (List.cons.inj same).1

/-- What is further in ends at the first line that is not. -/
theorem padded_inj {a b r s : List Char}
    (h : a.flatMap pad ++ '\n' :: '\x7d' :: r = b.flatMap pad ++ '\n' :: '\x7d' :: s) :
    a = b ∧ r = s := by
  induction a generalizing b with
  | nil =>
    cases b with
    | nil => exact ⟨rfl, (List.cons.inj (List.cons.inj h).2).2⟩
    | cons d b =>
      rw [List.flatMap_cons, List.append_assoc] at h
      exact absurd h.symm (pad_append_ne d _ _)
  | cons c a ih =>
    cases b with
    | nil =>
      rw [List.flatMap_cons, List.append_assoc] at h
      exact absurd h (pad_append_ne c _ _)
    | cons d b =>
      rw [List.flatMap_cons, List.flatMap_cons, List.append_assoc, List.append_assoc] at h
      obtain ⟨rfl, rest⟩ := pad_append_inj h
      obtain ⟨rfl, after⟩ := ih rest
      exact ⟨rfl, after⟩

theorem tells_indent {p : Prop} {x y : String} (h : x = y → p) :
    Tells p (indent x ++ "\n\x7d") (indent y ++ "\n\x7d") := by
  intro r s same
  have padded : x.toList.flatMap pad ++ '\n' :: '\x7d' :: r =
      y.toList.flatMap pad ++ '\n' :: '\x7d' :: s := by
    simpa [toList_indent] using same
  obtain ⟨texts, rest⟩ := padded_inj padded
  exact ⟨h (String.toList_inj.1 texts), rest⟩

/-- The lines of the parts of a value, before they are moved further in. -/
def lines (shown : String → String) : List (String × Shape) → String
  | [] => ""
  | (key, v) :: rest => "\n" ++ (shown key ++ ": " ++ v.spread) ++ "," ++ lines shown rest

theorem spreadFields_eq_indent (fields : List (String × Shape)) :
    spreadFields fields = indent (lines id fields) := by
  induction fields with
  | nil => rfl
  | cons e rest ih =>
    rw [spreadFields, lines, ih]
    simp only [id, indent_append, String.append_assoc]

theorem spreadEntries_eq_indent (entries : List (String × Shape)) :
    spreadEntries entries = indent (lines inspectText entries) := by
  induction entries with
  | nil => rfl
  | cons e rest ih =>
    rw [spreadEntries, lines, ih]
    simp only [indent_append, String.append_assoc]

theorem lines_inspectText_inj {es es' : List (String × Shape)}
    (parts : ∀ e ∈ es, ∀ e' ∈ es', Tells (e.2 = e'.2) e.2.spread e'.2.spread)
    (h : lines inspectText es = lines inspectText es') : es = es' := by
  induction es generalizing es' with
  | nil =>
    cases es' with
    | nil => rfl
    | cons e' es' => exact absurd (congrArg String.toList h) (by simp [lines])
  | cons e es ih =>
    cases es' with
    | nil => exact absurd (congrArg String.toList h) (by simp [lines])
    | cons e' es' =>
      have head := tells_entry (parts e (.head _) e' (.head _))
      obtain ⟨same, rest⟩ := ((head.after "\n").before ",").split h
      rw [same, ih (fun d hd d' hd' => parts d (.tail _ hd) d' (.tail _ hd')) rest]

/-- What follows the opening brace of a map over several lines. -/
def spreadRest : List (String × Shape) → String
  | [] => "\x7d"
  | e :: entries => spreadEntries (e :: entries) ++ "\n\x7d"

theorem spread_map (entries : List (String × Shape)) :
    (Shape.map entries).spread = "\x7b" ++ spreadRest entries := by
  cases entries with
  | nil => rfl
  | cons e rest => rw [Shape.spread, spreadRest, String.append_assoc]

theorem tells_spreadRest {es es' : List (String × Shape)}
    (parts : ∀ e ∈ es, ∀ e' ∈ es', Tells (e.2 = e'.2) e.2.spread e'.2.spread) :
    Tells (es = es') (spreadRest es) (spreadRest es') := by
  have opened (e : String × Shape) (rest : List (String × Shape)) :
      ∃ after, (spreadRest (e :: rest)).toList = '\n' :: after := by
    simp only [spreadRest, spreadEntries, indent_append, String.append_assoc, String.toList_append]
    exact ⟨_, rfl⟩
  refine tells_map spreadRest rfl (by decide) opened ?_
  rintro e rest e' rest' rfl rfl
  rw [spreadRest, spreadRest, spreadEntries_eq_indent, spreadEntries_eq_indent]
  exact tells_indent (lines_inspectText_inj parts)

mutual

/-- Values of one kind over several lines. -/
theorem Shape.Of.tells_spread {k : Kind} {v w : Shape} (hv : Shape.Of k v) (hw : Shape.Of k w) :
    Tells (v = w) v.spread w.spread := by
  match hv, hw with
  | .truth a, .truth b => exact tells_truth a b
  | .text s, .text t => exact tells_text s t
  | .record name parts, .record _ parts' =>
    have fields := (tells_indent (FieldsOf.lines_inj parts parts')).after (name ++ " \x7b")
    rw [← String.append_assoc, ← String.append_assoc, ← spreadFields_eq_indent,
      ← spreadFields_eq_indent] at fields
    exact fields.imp (congrArg (Shape.record name))
  | .map parts, .map parts' =>
    have entries := tells_spreadRest fun e he e' he' =>
      Shape.Of.tells_spread (parts e he) (parts' e' he')
    rw [spread_map, spread_map]
    exact (entries.after "\x7b").imp (congrArg Shape.map)

theorem FieldsOf.lines_inj {kinds : List (String × Kind)} {fs gs : List (String × Shape)}
    (hf : FieldsOf kinds fs) (hg : FieldsOf kinds gs) (h : lines id fs = lines id gs) :
    fs = gs := by
  match hf, hg with
  | .nil, .nil => rfl
  | .cons name hv rest, .cons _ hw rest' =>
    have value := (((Shape.Of.tells_spread hv hw).after (name ++ ": ")).after "\n").before ","
    obtain ⟨same, later⟩ := value.split h
    rw [same, FieldsOf.lines_inj rest rest' later]

end

section

variable {k : Kind} {v w : Shape} (hv : Shape.Of k v) (hw : Shape.Of k w)
include hv hw

theorem Shape.Of.compact_eq_iff : v.compact = w.compact ↔ v = w :=
  ⟨fun h => (hv.tells_compact hw).of_eq h, congrArg Shape.compact⟩

theorem Shape.Of.spread_eq_iff : v.spread = w.spread ↔ v = w :=
  ⟨fun h => (hv.tells_spread hw).of_eq h, congrArg Shape.spread⟩

end

end BuildDispatch.Text
