import BuildDispatch.Proofs.Data.Document

/-!
Documents of texts that end too early (`Document.Cut`). Wherever the text of an object was cut, what
is left of it is refused for its early end (`Format.read_cut`).
-/
namespace BuildDispatch.Data

mutual

/-- What is laid out for the first bytes of a value. A number has no end of its own. -/
inductive Document.Cut : Document → Document → Prop where
  | absent {d : Document} : Document.Cut d (.absent .ended)
  | literal {value : Except Fault (Option Bool)} :
      Document.Cut (.literal value) (.literal (.error .ended))
  | text {value : Except Fault String} {pass : Except Fault Unit} :
      Document.Cut (.text value pass) (.text (.error .ended) (.error .ended))
  | list {items left : Items} (cut : Items.Cut items left) : Document.Cut (.list items) (.list left)
  | object {members left : Members} (cut : Members.Cut members left) :
      Document.Cut (.object members) (.object left)

inductive Items.Cut : Items → Items → Prop where
  | close {items : Items} : Items.Cut items (.close (.error .ended))
  | head {d left : Document} {items : Items} (cut : Document.Cut d left) :
      Items.Cut (.item d items) (.item left (.close (.error .malformed)))
  | number {value : Except Fault Number} {pass : Except Fault Unit} {n : Number} {items : Items} :
      Items.Cut (.item (.number value pass) items)
        (.item (.number (.ok n) (.ok ())) (.close (.error .ended)))
  | rest {d : Document} {items left : Items} (cut : Items.Cut items left) :
      Items.Cut (.item d items) (.item d left)

inductive Members.Cut : Members → Members → Prop where
  | close {members : Members} : Members.Cut members (.close (.error .ended))
  | key {k : String} {left d : Document} {colon : Except Fault Unit} {members : Members}
      (cut : Document.Cut (.ofString k) left) :
      Members.Cut (.member (.ofString k) colon d members)
        (.member left (.error .malformed) (.absent .malformed) (.close (.error .malformed)))
  | colon {key d : Document} {colon : Except Fault Unit} {members : Members} :
      Members.Cut (.member key colon d members)
        (.member key (.error .ended) (.absent .ended) (.close (.error .ended)))
  | value {key d left : Document} {members : Members} (cut : Document.Cut d left) :
      Members.Cut (.member key (.ok ()) d members)
        (.member key (.ok ()) left (.close (.error .malformed)))
  | number {key : Document} {value : Except Fault Number} {pass : Except Fault Unit} {n : Number}
      {members : Members} :
      Members.Cut (.member key (.ok ()) (.number value pass) members)
        (.member key (.ok ()) (.number (.ok n) (.ok ())) (.close (.error .ended)))
  | rest {key d : Document} {members left : Members} (cut : Members.Cut members left) :
      Members.Cut (.member key (.ok ()) d members) (.member key (.ok ()) d left)

end

theorem Document.key_of_cut {k : String} {left : Document} (cut : (ofString k).Cut left) :
    left.key = .error .ended := by
  cases cut with
  | absent => rfl
  | text => rfl

/-! Taking in. -/

theorem ok_of_bind {ε α β : Type} {x : Except ε α} {f : α → Except ε β} {b : β}
    (h : (x >>= f) = .ok b) : ∃ a, x = .ok a ∧ f a = .ok b := by
  cases x with
  | error e => cases h
  | ok a => exact ⟨a, rfl, h⟩

mutual

/-- What could be taken in as a whole ends early once it is cut. -/
theorem Document.absorb_cut {depth : Nat} {d left : Document} (cut : d.Cut left)
    (whole : d.absorb depth = .ok ()) : left.absorb depth = .error .ended := by
  match cut with
  | .absent | .literal | .text => rfl
  | .list cut =>
    rw [Document.absorb] at whole ⊢
    split_ifs at whole ⊢
    exact Items.absorb_cut cut whole
  | .object cut =>
    rw [Document.absorb] at whole ⊢
    split_ifs at whole ⊢
    exact Members.absorb_cut cut whole

theorem Items.absorb_cut {depth : Nat} {items left : Items} (cut : items.Cut left)
    (whole : items.absorb depth = .ok ()) : left.absorb depth = .error .ended := by
  match cut with
  | .close | .number => rfl
  | .head cut =>
    obtain ⟨_, head, -⟩ := ok_of_bind whole
    rw [Items.absorb, Document.absorb_cut cut head]
    rfl
  | .rest cut =>
    obtain ⟨_, head, rest⟩ := ok_of_bind whole
    rw [Items.absorb, head, Items.absorb_cut cut rest]
    rfl

theorem Members.absorb_cut {depth : Nat} {members left : Members} (cut : members.Cut left)
    (whole : members.absorb depth = .ok ()) : left.absorb depth = .error .ended := by
  match cut with
  | .close => rfl
  | .key cut =>
    rw [Members.absorb, Document.key_of_cut cut]
    rfl
  | .colon =>
    obtain ⟨k, key, -⟩ := ok_of_bind whole
    rw [Members.absorb, key]
    rfl
  | .value cut =>
    obtain ⟨k, key, whole⟩ := ok_of_bind whole
    obtain ⟨_, -, whole⟩ := ok_of_bind whole
    obtain ⟨_, value, -⟩ := ok_of_bind whole
    rw [Members.absorb, key, Document.absorb_cut cut value]
    rfl
  | .number =>
    obtain ⟨k, key, -⟩ := ok_of_bind whole
    rw [Members.absorb, key]
    rfl
  | .rest cut =>
    obtain ⟨k, key, whole⟩ := ok_of_bind whole
    obtain ⟨_, -, whole⟩ := ok_of_bind whole
    obtain ⟨_, value, rest⟩ := ok_of_bind whole
    rw [Members.absorb, key, value, Members.absorb_cut cut rest]
    rfl

end

/-! Reading. -/

theorem ok_of_met {α : Type} {x : Except Fault α} {a : α} (h : met x = .ok a) : x = .ok a := by
  cases x with
  | error why => cases h
  | ok b =>
    cases h
    rfl

/-- As it is met, a tag is a text. -/
theorem readTag_cut {names : List String} {d left : Document} {i : Nat} (cut : d.Cut left)
    (whole : readTag names .direct d = .ok i) :
    readTag names .direct left = .error (.fault .ended) := by
  match cut with
  | .absent | .literal | .text => rfl
  | .list _ | .object _ => cases whole

theorem hold_cut {depth : Nat} {d left : Document} (cut : d.Cut left)
    (whole : d.hold .direct depth = .ok ()) : left.hold .direct depth = .error (.fault .ended) := by
  have taken : d.absorb depth = .ok () := ok_of_met whole
  change met (left.absorb depth) = _
  rw [Document.absorb_cut cut taken]
  rfl

/-- What is done with the value of a member while the tag is looked for. -/
def takeMember (tag : String) (names : List String) (depth : Nat) (found : Option Nat) (k : String)
    (colon : Except Fault Unit) (value : Document) : Except ReadError (Option Nat) :=
  if k = tag then do
    if found.isSome then .error (.duplicateField tag)
    met colon
    let i ← readTag names .direct value
    return some i
  else do
    met colon
    value.hold .direct depth
    return found

theorem findTag_member {tag : String} {names : List String} {depth : Nat} {found : Option Nat}
    {key value : Document} {colon : Except Fault Unit} {rest : Members} :
    findTag tag names .direct depth found (.member key colon value rest) = (do
      let k ← met key.key
      let found ← takeMember tag names depth found k colon value
      findTag tag names .direct depth found rest) := by
  rw [findTag]
  cases met key.key with
  | error e => rfl
  | ok k =>
    change (if k = tag then _ else _) = (takeMember tag names depth found k colon value >>= _)
    unfold takeMember
    by_cases same : k = tag
    · rw [if_pos same, if_pos same]
      cases found with
      | some i => rfl
      | none =>
        cases met colon with
        | error e => rfl
        | ok _ =>
          change (readTag names .direct value >>= _) = _
          cases readTag names .direct value with
          | error e => rfl
          | ok i => rfl
    · rw [if_neg same, if_neg same]
      cases met colon with
      | error e => rfl
      | ok _ =>
        change (value.hold .direct depth >>= _) = _
        cases value.hold .direct depth with
        | error e => rfl
        | ok _ => rfl

section

variable {tag k : String} {names : List String} {depth : Nat} {found found' r : Option Nat}
  {colon : Except Fault Unit} {d left : Document}

theorem takeMember_cut (cut : d.Cut left)
    (whole : takeMember tag names depth found k (.ok ()) d = .ok found') :
    takeMember tag names depth found k (.ok ()) left = .error (.fault .ended) := by
  unfold takeMember at whole ⊢
  by_cases same : k = tag
  · rw [if_pos same] at whole ⊢
    cases found with
    | some i => cases whole
    | none =>
      obtain ⟨i, tagged, -⟩ := ok_of_bind (show (readTag names .direct d >>= _) = _ from whole)
      change (readTag names .direct left >>= _) = _
      rw [readTag_cut cut tagged]
      rfl
  · rw [if_neg same] at whole ⊢
    obtain ⟨_, held, -⟩ := ok_of_bind (show (d.hold .direct depth >>= _) = _ from whole)
    change (left.hold .direct depth >>= _) = _
    rw [hold_cut cut held]
    rfl

theorem takeMember_colon (whole : takeMember tag names depth found k colon d = .ok found') :
    takeMember tag names depth found k (.error .ended) left = .error (.fault .ended) := by
  unfold takeMember at whole ⊢
  by_cases same : k = tag
  · rw [if_pos same] at whole ⊢
    cases found with
    | some i => cases whole
    | none => rfl
  · rw [if_neg same]
    rfl

/-- No number is a tag, and each of them is passed over. -/
theorem takeMember_number {value : Except Fault Number} {pass : Except Fault Unit} {n : Number}
    (whole : takeMember tag names depth found k (.ok ()) (.number value pass) = .ok found') :
    takeMember tag names depth found k (.ok ()) (.number (.ok n) (.ok ())) = .ok found := by
  unfold takeMember at whole ⊢
  by_cases same : k = tag
  · rw [if_pos same] at whole
    cases found with
    | some i => cases whole
    | none =>
      obtain ⟨i, tagged, -⟩ := ok_of_bind
        (show (readTag names .direct (.number value pass) >>= _) = _ from whole)
      match value with
      | .error why => cases tagged
      | .ok (.real lexeme) => cases tagged
      | .ok (.whole n) =>
        rw [readTag, if_neg (fun h => h.1 rfl)] at tagged
        cases tagged
  · rw [if_neg same]
    rfl

/-- Where the tag of a whole object is found, its cut members end early. -/
theorem findTag_cut {found : Option Nat} {members left : Members} (cut : members.Cut left)
    (whole : findTag tag names .direct depth found members = .ok r) :
    findTag tag names .direct depth found left = .error (.fault .ended) := by
  match cut with
  | .close => rfl
  | .key cut =>
    rw [findTag_member, Document.key_of_cut cut]
    rfl
  | .colon =>
    rw [findTag_member] at whole ⊢
    obtain ⟨k, key, whole⟩ := ok_of_bind whole
    obtain ⟨_, taken, -⟩ := ok_of_bind whole
    rw [key]
    change (takeMember .. >>= _) = _
    rw [takeMember_colon taken]
    rfl
  | .value cut =>
    rw [findTag_member] at whole ⊢
    obtain ⟨k, key, whole⟩ := ok_of_bind whole
    obtain ⟨_, taken, -⟩ := ok_of_bind whole
    rw [key]
    change (takeMember .. >>= _) = _
    rw [takeMember_cut cut taken]
    rfl
  | .number =>
    rw [findTag_member] at whole ⊢
    obtain ⟨k, key, whole⟩ := ok_of_bind whole
    obtain ⟨_, taken, -⟩ := ok_of_bind whole
    rw [key]
    change (takeMember .. >>= _) = _
    rw [takeMember_number taken]
    rfl
  | .rest cut =>
    rw [findTag_member] at whole ⊢
    obtain ⟨k, key, whole⟩ := ok_of_bind whole
    obtain ⟨found', taken, whole⟩ := ok_of_bind whole
    rw [key]
    change (takeMember .. >>= _) = _
    rw [taken]
    exact findTag_cut cut whole

end

/-- What is left of the text of a tagged object is refused for its early end. -/
theorem Format.read_cut {α : Type} {tag : String} {variants : Variants α} {depth : Nat} {a : α}
    {members : Members} {left : Document} (cut : (Document.object members).Cut left)
    (whole : (Format.tagged tag variants).read .direct depth (.object members) = .ok a) :
    (Format.tagged tag variants).read .direct depth left = .error (.fault .ended) := by
  cases cut with
  | absent => rfl
  | object cut =>
    rw [Format.read] at whole ⊢
    obtain ⟨_, entered, whole⟩ := ok_of_bind whole
    obtain ⟨i, tagged, -⟩ := ok_of_bind whole
    rw [entered]
    change (findTag .. >>= _) = _
    rw [findTag_cut cut tagged]
    rfl

end BuildDispatch.Data
