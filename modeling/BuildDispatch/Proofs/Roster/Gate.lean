import BuildDispatch.Outcome
import BuildDispatch.Proofs.Roster.Call

/-!
What of an agent's record lets its calls in, and lets it have work: the cookie that it has to show
(`Roster.bound?`), and the reason for which it is denied work (`Roster.denial?`).
-/
namespace BuildDispatch

namespace Roster.Call

def issued? (uuid : String) : Roster.Call → Option (Cookie × String)
  | .issueCookie identity location cookie =>
    if identity.uuid = uuid then some (cookie, location) else none
  | _ => none

theorem issued?_of_silent {c : Roster.Call} {uuid : String} (silent : c.said? uuid = none) :
    c.issued? uuid = none := by
  cases c with
  | issueCookie identity location cookie =>
    simp only [said?] at silent
    split_ifs at silent with hu
    exact if_neg hu
  | _ => rfl

def denial? (uuid : String) (former : Option DenyReason) : Roster.Call → Option DenyReason
  | .approve u => if u = uuid then none else former
  | .disable u => if u = uuid then some .disabled else former
  | _ => former

theorem denial?_of_said {c : Roster.Call} {uuid : String} {info : Snapshot}
    (said : c.said? uuid = some info) (former : Option DenyReason) :
    c.denial? uuid former = former := by
  cases c with
  | approve => cases said
  | disable => cases said
  | _ => rfl

end Roster.Call

def AgentStatus.denial? : AgentStatus → Option DenyReason
  | .pending => some .awaitingApproval
  | .disabled => some .disabled
  | _ => none

theorem AgentStatus.denial?_eq_none {s : AgentStatus} : s.denial? = none ↔ s.isHeld = false := by
  cases s <;> decide

@[simp] theorem Snapshot.denial?_reportedStatus (info : Snapshot) :
    info.reportedStatus.denial? = none := by
  unfold reportedStatus
  cases info.status <;> rfl

namespace AgentRecord

variable (a : AgentRecord) (now : Timestamp) (uuid : String)

def bound? : Option (Cookie × String) := a.cookie.map fun cookie => (cookie, a.location)

theorem admits_iff (info : Snapshot) : a.admits info = true ↔ ∀ cookie location,
    a.bound? = some (cookie, location) → info.cookie = some cookie ∧ info.location = location := by
  unfold admits bound?
  cases a.cookie with
  | none => simp
  | some issued =>
    constructor
    · intro shown cookie location h
      cases h
      simpa using shown
    · intro h
      simpa using h issued a.location rfl

theorem bound?_after (c : Roster.Call) :
    (a.after uuid now c).bound? = (c.issued? uuid).or a.bound? := by
  cases c with
  | issueCookie identity location cookie =>
    simp only [after, Roster.Call.issued?]
    split_ifs <;> rfl
  | _ =>
    simp only [after]
    split_ifs <;> rfl

theorem denial?_hear (info : Snapshot) :
    (a.hear info now).status.denial? = a.status.denial? := by
  change (if a.status.isHeld = true then a.status else info.reportedStatus).denial? = _
  by_cases held : a.status.isHeld = true
  · rw [if_pos held]
  · have unheld := AgentStatus.denial?_eq_none.2 (by simpa using held)
    rw [if_neg held, Snapshot.denial?_reportedStatus, unheld]

/-- Only operators change the reason for which an agent is denied work. -/
theorem denial?_after (c : Roster.Call) :
    (a.after uuid now c).status.denial? = c.denial? uuid a.status.denial? := by
  cases c with
  | observe info =>
    simp only [after]
    split_ifs
    · exact denial?_hear a now info
    · rfl
  | issueCookie identity location cookie =>
    simp only [after]
    split_ifs <;> rfl
  | approve u =>
    simp only [after, Roster.Call.denial?]
    by_cases hu : u = uuid
    · by_cases held : a.status.isHeld = true
      · rw [if_pos ⟨hu, held⟩, if_pos hu, Snapshot.denial?_reportedStatus]
      · rw [if_neg (fun h => held h.2), if_pos hu]
        exact AgentStatus.denial?_eq_none.2 (by simpa using held)
    · rw [if_neg (fun h => hu h.1), if_neg hu]
  | disable u =>
    simp only [after, Roster.Call.denial?]
    split_ifs <;> rfl
  | sweepLostContact timeout =>
    simp only [after, Roster.Call.denial?]
    split_ifs with silent
    · have unheld : a.status.isHeld = false := by
        simp only [Roster.isSilent, Bool.and_eq_true, Bool.not_eq_true', Bool.or_eq_false_iff]
          at silent
        exact silent.1.1
      rw [AgentStatus.denial?_eq_none.2 unheld]
      rfl
    · rfl

theorem denial?_first (info : Snapshot) :
    (first false info now).status.denial? = some .awaitingApproval := rfl

end AgentRecord

namespace Roster

variable (r : Roster) (now : Timestamp) (uuid : String)

def bound? : Option (Cookie × String) := (r.get? uuid).bind AgentRecord.bound?

/-- An agent shows the cookie that it has to show, if any. -/
def Admits (info : Snapshot) : Prop := ∀ cookie location,
  r.bound? info.uuid = some (cookie, location) →
    info.cookie = some cookie ∧ info.location = location

def denial? : Option DenyReason := (r.status? uuid).bind AgentStatus.denial?

theorem admits_iff (info : Snapshot) : (r.met now info).admits info = true ↔ r.Admits info := by
  rw [AgentRecord.admits_iff]
  unfold Admits bound? met
  cases r.get? info.uuid <;> rfl

instance (info : Snapshot) : Decidable (r.Admits info) := decidable_of_iff _ (r.admits_iff 0 info)

theorem bound?_after (c : Call) :
    (r.after now c).bound? uuid = (c.issued? uuid).or (r.bound? uuid) := by
  unfold bound?
  rw [get?_after]
  cases known : r.get? uuid with
  | some a =>
    rw [found_of_known r now known]
    exact a.bound?_after now uuid c
  | none =>
    unfold found
    rw [known]
    cases said : c.said? uuid with
    | none =>
      rw [Call.issued?_of_silent said]
      rfl
    | some info => exact AgentRecord.bound?_after _ now uuid c

theorem observe_of_not_admits {info : Snapshot} (refused : ¬r.Admits info) :
    r.observe info now = (.error (.cookieMismatch info.uuid), r) := by
  rw [← r.admits_iff now] at refused
  exact (observe_of_refused r now (by simpa using refused)).2

theorem observe_of_admits {info : Snapshot} (admitted : r.Admits info) :
    ∃ status r', r.observe info now = (.ok status, r') ∧ r'.status? info.uuid = some status := by
  rw [← r.admits_iff now] at admitted
  obtain ⟨ok, hr⟩ := observe_of_admitted r now admitted
  refine ⟨_, (r.observe info now).2, Prod.ext ok rfl, ?_⟩
  rw [status?, hr, if_pos rfl]
  rfl

variable {r uuid}

theorem isSome_get?_after (known : (r.get? uuid).isSome = true) (c : Call) :
    ((r.after now c).get? uuid).isSome = true := by
  obtain ⟨a, known⟩ := Option.isSome_iff_exists.1 known
  rw [get?_after, found_of_known r now known]
  rfl

theorem denial?_after (known : (r.get? uuid).isSome = true) (c : Call) :
    (r.after now c).denial? uuid = c.denial? uuid (r.denial? uuid) := by
  obtain ⟨a, known⟩ := Option.isSome_iff_exists.1 known
  unfold denial? status?
  rw [get?_after, found_of_known r now known, known]
  exact a.denial?_after now uuid c

theorem said_of_new (absent : r.get? uuid = none) {c : Call}
    (present : ((r.after now c).get? uuid).isSome = true) : ∃ info, c.said? uuid = some info := by
  rw [get?_after, found, absent] at present
  cases said : c.said? uuid with
  | none =>
    rw [said] at present
    cases present
  | some info => exact ⟨info, rfl⟩

/-- An agent that is registered unapproved is denied work until it is approved. -/
theorem denial?_after_of_new (unapproved : r.autoRegister = false) (absent : r.get? uuid = none)
    {c : Call} (present : ((r.after now c).get? uuid).isSome = true) :
    (r.after now c).denial? uuid = some .awaitingApproval := by
  obtain ⟨info, said⟩ := said_of_new now absent present
  unfold denial? status?
  rw [get?_after, found, absent, said, unapproved]
  refine (AgentRecord.denial?_after _ now uuid c).trans ?_
  rw [AgentRecord.denial?_first, Call.denial?_of_said said]

end Roster

end BuildDispatch
