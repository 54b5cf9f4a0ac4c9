import BuildDispatch.Roster
import BuildDispatch.Proofs.Table
import Mathlib.Tactic.SplitIfs

/-!
Calls on the roster. A call registers the agent that makes contact for the first time, and does to
the record of every agent what it would do if there were no others (`Roster.get?_after`).
-/
namespace BuildDispatch

namespace Roster

inductive Call where
  | observe (info : Snapshot)
  | issueCookie (identity : AgentIdentity) (location : String) (cookie : Cookie)
  | approve (uuid : String)
  | disable (uuid : String)
  | sweepLostContact (timeout : Nat)
  deriving DecidableEq

/-- What an agent says of itself with a call, by which it is registered if it is not known. -/
def Call.said? (uuid : String) : Call → Option Snapshot
  | .observe info => if info.uuid = uuid then some info else none
  | .issueCookie identity location _ =>
    if identity.uuid = uuid then some (.fresh identity location) else none
  | _ => none

def after (r : Roster) (now : Timestamp) : Call → Roster
  | .observe info => (r.observe info now).2
  | .issueCookie identity location cookie => r.issueCookie identity location cookie now
  | .approve uuid => (r.approve uuid now).2
  | .disable uuid => (r.disable uuid now).2
  | .sweepLostContact timeout => (r.sweepLostContact timeout now).2

end Roster

namespace AgentRecord

/-- The record of an agent that has made contact for the first time. -/
def first (autoRegister : Bool) (info : Snapshot) (now : Timestamp) : AgentRecord where
  info
  status := if autoRegister then info.reportedStatus else .pending
  lastSeen := now
  cookie := none
  location := info.location

def hear (a : AgentRecord) (info : Snapshot) (now : Timestamp) : AgentRecord :=
  { a with
    info
    lastSeen := now
    status := if a.status.isHeld then a.status else info.reportedStatus }

def bindTo (a : AgentRecord) (identity : AgentIdentity) (location : String) (cookie : Cookie) :
    AgentRecord :=
  { a with cookie := some cookie, location, info := { a.info with identity } }

/-- What a call makes of the record of an agent. -/
def after (a : AgentRecord) (uuid : String) (now : Timestamp) : Roster.Call → AgentRecord
  | .observe info => if info.uuid = uuid ∧ a.admits info = true then a.hear info now else a
  | .issueCookie identity location cookie =>
    if identity.uuid = uuid then a.bindTo identity location cookie else a
  | .approve u =>
    if u = uuid ∧ a.status.isHeld = true then { a with status := a.info.reportedStatus } else a
  | .disable u => if u = uuid then { a with status := .disabled } else a
  | .sweepLostContact timeout =>
    if Roster.isSilent a timeout now = true then { a with status := .lostContact } else a

end AgentRecord

namespace Roster

variable (r : Roster) (now : Timestamp)

theorem get?_put (uuid q : String) (a : AgentRecord) :
    (r.put uuid a).get? q = if q = uuid then some a else r.get? q := Table.get?_insert _ _ _ _

theorem get?_setStatus (uuid q : String) (a : AgentRecord) (status : AgentStatus) :
    (r.setStatus uuid a status now).get? q =
      if q = uuid then some { a with status } else r.get? q := by
  unfold setStatus
  by_cases hs : a.status = status
  · subst hs
    rw [if_pos rfl]
    exact get?_put _ _ _ _
  · rw [if_neg hs]
    exact get?_put _ _ _ _

@[simp] theorem autoRegister_setStatus (uuid : String) (a : AgentRecord) (status : AgentStatus) :
    (r.setStatus uuid a status now).autoRegister = r.autoRegister := by
  unfold setStatus
  split <;> rfl

/-- The record of an agent that makes contact. -/
def met (info : Snapshot) : AgentRecord :=
  (r.get? info.uuid).getD (.first r.autoRegister info now)

theorem register_of_known {info : Snapshot} {a : AgentRecord} (known : r.get? info.uuid = some a) :
    r.register info now = (a, r) := by
  unfold register
  rw [known]

theorem register_fst (info : Snapshot) : (r.register info now).1 = r.met now info := by
  unfold register met
  cases r.get? info.uuid <;> rfl

theorem get?_register (info : Snapshot) (q : String) :
    (r.register info now).2.get? q =
      if q = info.uuid then some (r.met now info) else r.get? q := by
  cases known : r.get? info.uuid with
  | some a =>
    rw [register_of_known r now known, met, known]
    split_ifs with hq
    · rw [hq, known]
      rfl
    · rfl
  | none =>
    unfold register met
    rw [known]
    exact get?_put _ _ _ _

theorem autoRegister_register (info : Snapshot) :
    (r.register info now).2.autoRegister = r.autoRegister := by
  unfold register
  cases r.get? info.uuid <;> rfl

/-- Only an agent that is known is refused, and nothing is noted of what it says. -/
theorem observe_of_refused {info : Snapshot} (refused : (r.met now info).admits info = false) :
    r.get? info.uuid = some (r.met now info) ∧
      r.observe info now = (.error (.cookieMismatch info.uuid), r) := by
  cases known : r.get? info.uuid with
  | none =>
    rw [met, known] at refused
    cases refused
  | some a =>
    have hm : r.met now info = a := by
      rw [met, known]
      rfl
    rw [hm] at refused ⊢
    refine ⟨rfl, ?_⟩
    unfold observe
    rw [register_of_known r now known]
    simp only [refused]
    rfl

theorem observe_of_admitted {info : Snapshot} (admitted : (r.met now info).admits info = true) :
    (r.observe info now).1 = .ok ((r.met now info).hear info now).status ∧
      ∀ q, (r.observe info now).2.get? q =
        if q = info.uuid then some ((r.met now info).hear info now) else r.get? q := by
  unfold observe
  rw [← register_fst] at admitted
  simp only [admitted, if_true]
  refine ⟨by rw [register_fst]; rfl, fun q => ?_⟩
  rw [get?_setStatus, get?_register, register_fst]
  by_cases hq : q = info.uuid
  · rw [if_pos hq, if_pos hq]
    rfl
  · rw [if_neg hq, if_neg hq, if_neg hq]

/-- The record on which a call acts: that of a known agent, or of one that is registered by it. -/
def found (c : Call) (uuid : String) : Option AgentRecord :=
  (r.get? uuid).or ((c.said? uuid).map fun info => .first r.autoRegister info now)

theorem found_of_known {c : Call} {uuid : String} {a : AgentRecord}
    (known : r.get? uuid = some a) : r.found now c uuid = some a := by
  rw [found, known]
  rfl

theorem found_of_silent {c : Call} {uuid : String} (silent : c.said? uuid = none) :
    r.found now c uuid = r.get? uuid := by
  rw [found, silent]
  exact Option.or_none

theorem found_met {c : Call} {info : Snapshot} (said : c.said? info.uuid = some info) :
    r.found now c info.uuid = some (r.met now info) := by
  rw [found, said, met]
  cases r.get? info.uuid <;> rfl

theorem get?_observe (info : Snapshot) (q : String) :
    (r.observe info now).2.get? q =
      (r.found now (.observe info) q).map fun a => a.after q now (.observe info) := by
  by_cases hq : info.uuid = q
  · subst hq
    have said : Call.said? info.uuid (.observe info) = some info := if_pos rfl
    rw [found_met r now said]
    by_cases admitted : (r.met now info).admits info = true
    · have ha := (observe_of_admitted r now admitted).2 info.uuid
      simp [ha, AgentRecord.after, admitted]
    · obtain ⟨known, hr⟩ := observe_of_refused r now (by simpa using admitted)
      simp [hr, known, AgentRecord.after, admitted]
  · have silent : Call.said? q (.observe info) = none := if_neg hq
    have hr : (r.observe info now).2.get? q = r.get? q := by
      by_cases admitted : (r.met now info).admits info = true
      · rw [(observe_of_admitted r now admitted).2, if_neg (Ne.symm hq)]
      · rw [(observe_of_refused r now (by simpa using admitted)).2]
    rw [found_of_silent r now silent, hr]
    simp [AgentRecord.after, hq]

theorem get?_issueCookie (identity : AgentIdentity) (location : String) (cookie : Cookie)
    (q : String) : (r.issueCookie identity location cookie now).get? q =
      (r.found now (.issueCookie identity location cookie) q).map fun a =>
        a.after q now (.issueCookie identity location cookie) := by
  have hi : r.issueCookie identity location cookie now =
      (r.register (.fresh identity location) now).2.put identity.uuid
        ((r.met now (.fresh identity location)).bindTo identity location cookie) := by
    rw [← register_fst]
    rfl
  rw [hi, get?_put, get?_register]
  change (if q = identity.uuid then _ else if q = identity.uuid then _ else r.get? q) = _
  by_cases hq : identity.uuid = q
  · subst hq
    have said : Call.said? (Snapshot.fresh identity location).uuid
        (.issueCookie identity location cookie) = some (.fresh identity location) := if_pos rfl
    have hf := found_met r now said
    change r.found now _ identity.uuid = _ at hf
    rw [if_pos rfl, hf]
    simp [AgentRecord.after]
  · have silent : Call.said? q (.issueCookie identity location cookie) = none := if_neg hq
    rw [if_neg (Ne.symm hq), if_neg (Ne.symm hq), found_of_silent r now silent]
    simp [AgentRecord.after, hq]

theorem get?_approve (uuid q : String) :
    (r.approve uuid now).2.get? q = (r.get? q).map fun a => a.after q now (.approve uuid) := by
  unfold approve
  cases known : r.get? uuid with
  | none =>
    by_cases hq : uuid = q
    · subst hq
      simp [known]
    · simp [AgentRecord.after, hq]
  | some a =>
    dsimp only
    by_cases hq : uuid = q
    · subst hq
      cases held : a.status.isHeld with
      | true => simp [known, held, get?_setStatus, AgentRecord.after]
      | false => simp [known, held, AgentRecord.after]
    · cases a.status.isHeld with
      | true => simp [get?_setStatus, Ne.symm hq, AgentRecord.after, hq]
      | false => simp [AgentRecord.after, hq]

theorem get?_disable (uuid q : String) :
    (r.disable uuid now).2.get? q = (r.get? q).map fun a => a.after q now (.disable uuid) := by
  unfold disable
  by_cases hq : uuid = q
  · subst hq
    cases known : r.get? uuid with
    | none => simp [known]
    | some a => simp [get?_setStatus, AgentRecord.after]
  · cases r.get? uuid with
    | none => simp [AgentRecord.after, hq]
    | some a => simp [get?_setStatus, Ne.symm hq, AgentRecord.after, hq]

theorem get?_foldl_setStatus (status : AgentStatus) {es : List (String × AgentRecord)}
    (distinct : (es.map Prod.fst).Nodup) (q : String) :
    (es.foldl (fun r e => r.setStatus e.1 e.2 status now) r).get? q =
      ((Entries.lookup q es).map fun a => { a with status }).or (r.get? q) := by
  induction es generalizing r with
  | nil => rfl
  | cons e rest ih =>
    obtain ⟨absent, rest_distinct⟩ := List.nodup_cons.1 distinct
    rw [List.foldl_cons, ih _ rest_distinct, get?_setStatus, Entries.lookup]
    by_cases hq : q = e.1
    · have hn : Entries.lookup q rest = none := by
        apply Entries.lookup_eq_none.2
        intro e' he' hk
        exact absent (List.mem_map.2 ⟨e', he', hk.trans hq⟩)
      rw [hn, if_pos hq, if_pos hq]
      rfl
    · rw [if_neg hq, if_neg hq]

theorem get?_sweepLostContact (timeout : Nat) (q : String) :
    (r.sweepLostContact timeout now).2.get? q =
      (r.get? q).map fun a => a.after q now (.sweepLostContact timeout) := by
  have sorted := r.agents.sorted.filter fun e => isSilent e.2 timeout now
  have found := Entries.lookup_filter r.agents.sorted (fun e => isSilent e.2 timeout now) q
  change (List.foldl _ r _).get? q = _
  rw [get?_foldl_setStatus r now .lostContact (Entries.nodup_keys sorted), found]
  change ((r.get? q).filter _ |>.map _).or (r.get? q) = _
  cases r.get? q with
  | none => rfl
  | some a =>
    by_cases silent : isSilent a timeout now = true
    · simp [Option.filter, AgentRecord.after, silent]
    · simp [Option.filter, AgentRecord.after, silent]

/-- What a call does to the record of an agent does not depend on the other agents. -/
theorem get?_after (c : Call) (uuid : String) :
    (r.after now c).get? uuid = (r.found now c uuid).map fun a => a.after uuid now c := by
  cases c with
  | observe info => exact get?_observe r now info uuid
  | issueCookie identity location cookie =>
    exact get?_issueCookie r now identity location cookie uuid
  | approve u =>
    rw [found_of_silent r now rfl]
    exact get?_approve r now u uuid
  | disable u =>
    rw [found_of_silent r now rfl]
    exact get?_disable r now u uuid
  | sweepLostContact timeout =>
    rw [found_of_silent r now rfl]
    exact get?_sweepLostContact r now timeout uuid

@[simp] theorem autoRegister_after (c : Call) : (r.after now c).autoRegister = r.autoRegister := by
  cases c with
  | observe info =>
    change (r.observe info now).2.autoRegister = _
    unfold observe
    dsimp only
    split
    · rw [autoRegister_setStatus, autoRegister_register]
    · exact autoRegister_register r now info
  | issueCookie identity location cookie => exact autoRegister_register r now _
  | approve uuid =>
    change (r.approve uuid now).2.autoRegister = _
    unfold approve
    cases r.get? uuid with
    | none => rfl
    | some a =>
      dsimp only
      split <;> simp
  | disable uuid =>
    change (r.disable uuid now).2.autoRegister = _
    unfold disable
    cases r.get? uuid <;> simp
  | sweepLostContact timeout =>
    change (List.foldl _ r _).autoRegister = _
    generalize List.filter _ r.agents.entries = silent
    induction silent generalizing r with
    | nil => rfl
    | cons e rest ih => rw [List.foldl_cons, ih, autoRegister_setStatus]

end Roster

end BuildDispatch
