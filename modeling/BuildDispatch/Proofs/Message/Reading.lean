import BuildDispatch.Proofs.Json.Cut
import BuildDispatch.Proofs.Message.Forms

/-!
Messages are read back from what they are written as (`messages_decode_encode`), and from what a
newer or older program may write in their place (`messages_decode_of_renders`); from nothing that
ends early or goes on after them (`messages_delimited`).
-/
namespace BuildDispatch

theorem Request.decode_encode (r : Request) : Json.decode form (Json.encode form r) = .ok r :=
  Json.decode_encode r.form_carries (by decide)

theorem Response.decode_encode (r : Response) : Json.decode form (Json.encode form r) = .ok r :=
  Json.decode_encode r.form_carries (by decide)

theorem Job.decode_encode (j : Job) : Json.decode form (Json.encode form j) = .ok j :=
  Json.decode_encode j.form_carries (by decide)

theorem BuildCause.decode_encode (c : BuildCause) :
    Json.decode form (Json.encode form c) = .ok c :=
  Json.decode_encode c.form_carries (by decide)

/-- Every request, response, job and cause of a build is read back from its text. -/
theorem messages_decode_encode :
    (∀ r : Request, Json.decode Request.form (Json.encode Request.form r) = .ok r) ∧
    (∀ r : Response, Json.decode Response.form (Json.encode Response.form r) = .ok r) ∧
    (∀ j : Job, Json.decode Job.form (Json.encode Job.form j) = .ok j) ∧
    ∀ c : BuildCause, Json.decode BuildCause.form (Json.encode BuildCause.form c) = .ok c :=
  ⟨Request.decode_encode, Response.decode_encode, Job.decode_encode, BuildCause.decode_encode⟩

/--
The text of a message is a text of one of its documents; and from any text of any of its documents
the message is read back, if no more than 127 levels of lists and objects nest.
-/
theorem messages_decode_of_renders :
    (∀ r : Request, ∃ d, Request.form.Renders r d ∧ Json.IsText (Json.encode Request.form r) d) ∧
    (∀ (r : Request) (d : Data.Document) (s : Bytes), Request.form.Renders r d → d.levels ≤ 127 →
      Json.IsText s d → Json.decode Request.form s = .ok r) ∧
    (∀ r : Response, ∃ d, Response.form.Renders r d ∧
      Json.IsText (Json.encode Response.form r) d) ∧
    ∀ (r : Response) (d : Data.Document) (s : Bytes), Response.form.Renders r d → d.levels ≤ 127 →
      Json.IsText s d → Json.decode Response.form s = .ok r := by
  refine ⟨fun r => ?_, fun r d s renders shallow text => ?_, fun r => ?_,
    fun r d s renders shallow text => ?_⟩
  · exact ⟨_, Request.form.renders_write r.form_carries, Json.isText_render _⟩
  · exact Json.decode_of_renders r.form_carries renders (Nat.lt_succ_of_le shallow) text
  · exact ⟨_, Response.form.renders_write r.form_carries, Json.isText_render _⟩
  · exact Json.decode_of_renders r.form_carries renders (Nat.lt_succ_of_le shallow) text

section
open Data Json

/--
A newer dispatcher denies work: it writes its tags last, and a member that is not known here. An
agent asks for the jobs that have not ended, which it need not say.
-/
theorem messages_decode_of_renders_denied :
    let work := word "\x7b\"reason\":\"disabled\",\"retry\":[1e3],\"type\":\"deny\"\x7d"
    let s := word "\x7b\"work\" :" ++ work ++ word ",\"type\":\"Work\"\x7d"
    let retry : Data.Document := .list (.ofList [.number (.ok (.real "1e3")) (.ok ())])
    let denial : Data.Document := .object (.ofList
      [("reason", .ofString "disabled"), ("retry", retry), ("type", .ofString "deny")])
    let d : Data.Document := .object (.ofList [("work", denial), ("type", .ofString "Work")])
    (IsText s d ∧ Response.form.Renders (.work (.deny .disabled)) d ∧
      decode Response.form s = .ok (.work (.deny .disabled))) ∧
    decode Request.form (word "\x7b\"type\":\"ListJobs\"\x7d\n") = .ok (.listJobs false) := by
  intro work s retry denial d
  have number (rest : Bytes) : Spells (0x31 :: 0x65 :: 0x33 :: 0x5D :: rest)
      (.number (.ok (.real "1e3")) (.ok ())) (0x5D :: rest) := by
    have one : IsDigits [0x31] := ⟨by decide, by decide +kernel⟩
    have three : IsDigits [0x33] := ⟨by decide, by decide +kernel⟩
    have spelled : (⟨false, [0x31], none, some (false, [0x33])⟩ : Numeral).Spelled
        (0x31 :: 0x65 :: 0x33 :: 0x5D :: rest) (0x5D :: rest) :=
      ⟨one, .inr (by decide), _, _, rfl, .absent, .present (.inl rfl) .absent three⟩
    exact .number spelled (by decide +kernel)
  have text : IsText s d := by
    have pieces : s = 0x7B :: (quote "work" ++ 0x20 :: 0x3A :: 0x7B ::
        (quote "reason" ++ 0x3A :: (quote "disabled" ++ 0x2C ::
          (quote "retry" ++ 0x3A :: 0x5B :: 0x31 :: 0x65 :: 0x33 :: 0x5D :: 0x2C ::
            (quote "type" ++ 0x3A :: (quote "deny" ++ 0x7D :: 0x2C ::
              (quote "type" ++ 0x3A :: (quote "Work" ++ [0x7D])))))))) := by
      decide +kernel
    rw [pieces]
    exact ⟨[], .object (.first (spells_key _ _) ⟨[0x20], rfl, by decide +kernel⟩
      (.object (.first (spells_key _ _) (colon_append _) (spells_key _ _)
        (.next (spells_key _ _) (colon_append _) (.list (.first (number _) .close))
          (.next (spells_key _ _) (colon_append _) (spells_key _ _) .close))))
      (.next (spells_key _ _) (colon_append _) (spells_key _ _) .close)), by decide +kernel⟩
  have denied : Work.form.Renders (.deny .disabled) denial :=
    ⟨_, rfl, rfl, .inl ⟨_, rfl, rfl⟩, trivial⟩
  have renders : Response.form.Renders (.work (.deny .disabled)) d :=
    ⟨_, rfl, rfl, .inl ⟨_, rfl, denied⟩, trivial⟩
  have asked : IsText (word "\x7b\"type\":\"ListJobs\"\x7d\n")
      (.object (.ofList [("type", .ofString "ListJobs")])) := by
    have pieces : word "\x7b\"type\":\"ListJobs\"\x7d\n" =
        0x7B :: (quote "type" ++ 0x3A :: (quote "ListJobs" ++ [0x7D, 0x0A])) := by decide +kernel
    rw [pieces]
    exact ⟨[0x0A], .object (.first (spells_key _ _) (colon_append _) (spells_key _ _) .close),
      by decide +kernel⟩
  have short : Request.form.Renders (.listJobs false)
      (.object (.ofList [("type", .ofString "ListJobs")])) :=
    ⟨_, rfl, rfl, .inr ⟨rfl, rfl⟩, trivial⟩
  have told := messages_decode_of_renders.2.2.2 _ d s renders (by decide) text
  exact ⟨⟨text, renders, told⟩, messages_decode_of_renders.2.1 _ _ _ short (by decide) asked⟩

end

/--
No request and no response is read from a part of its text, which ends early wherever it is cut, nor
from its text with anything but blanks after it, which is malformed.
-/
theorem messages_delimited :
    (∀ r : Request, Json.Delimited Request.form r) ∧
    ∀ r : Response, Json.Delimited Response.form r := by
  constructor
  · intro r
    exact Json.delimited_tagged r.form_carries (by decide)
  · intro r
    exact Json.delimited_tagged r.form_carries (by decide)

/-- A message that is cut within a character, one with a line end, and one with another after it. -/
theorem messages_delimited_within :
    let r : Response := .error .internal "né\n"
    let s := Json.encode Response.form r
    (s.take 47).getLast? = some 0xC3 ∧
    Json.decode Response.form (s.take 47) = .error (.fault .ended) ∧
    Json.decode Response.form (s ++ [0x0A]) = .ok r ∧
    Json.decode Response.form (s ++ s) = .error (.fault .malformed) := by
  intro r s
  have delimited := messages_delimited.2 r
  have part : s.take 47 ≠ s := by decide +kernel
  have visible : ∃ b ∈ s, Json.isBlank b = false := by decide +kernel
  exact ⟨by decide +kernel, delimited.cut _ (List.take_prefix 47 s) part,
    delimited.blanks [0x0A] (List.forall_mem_singleton.2 rfl), delimited.other s visible⟩

end BuildDispatch
