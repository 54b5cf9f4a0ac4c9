import BuildDispatch.Proofs.Roster.Session
import Mathlib.Data.List.Basic

/-!
Changes of status, and the trail of them. A call records those of its own making, each once
(`Roster.kept_after`): the status of an agent before it, and the status after it.
-/
namespace BuildDispatch

/-- What a list gives of which one member alone gives anything. -/
theorem filterMap_of_only {α β : Type} {l : List α} (distinct : l.Nodup) {f : α → Option β} {k : α}
    (only : ∀ x ∈ l, x ≠ k → f x = none) (absent : k ∉ l → f k = none) :
    l.filterMap f = (f k).toList := by
  induction l with
  | nil => rw [absent List.not_mem_nil]; rfl
  | cons x rest ih =>
    obtain ⟨apart, distinct⟩ := List.nodup_cons.1 distinct
    by_cases hx : x = k
    · subst hx
      have nothing : rest.filterMap f = [] := by
        refine List.filterMap_eq_nil_iff.2 fun y hy => ?_
        exact only y (List.mem_cons_of_mem _ hy) fun same => apart (same ▸ hy)
      rw [List.filterMap_cons, nothing]
      cases f x <;> rfl
    · rw [List.filterMap_cons_none (only x List.mem_cons_self hx)]
      refine ih distinct (fun y hy => only y (List.mem_cons_of_mem _ hy)) fun hk => absent ?_
      exact fun hm => hk ((List.mem_cons.1 hm).resolve_left (Ne.symm hx))

namespace Roster

def change? (uuid : String) (former : Option AgentStatus) (status : AgentStatus)
    (now : Timestamp) : Option StatusChange :=
  if former = some status then none else some ⟨uuid, former, status, now⟩

def changeOf? (r r' : Roster) (now : Timestamp) (uuid : String) : Option StatusChange :=
  (r'.status? uuid).bind fun status => change? uuid (r.status? uuid) status now

def changes (r r' : Roster) (now : Timestamp) : List StatusChange :=
  r'.agents.keys.filterMap (r.changeOf? r' now)

section Changes

variable {r r' : Roster} (now : Timestamp)

theorem changeOf?_of_same {uuid : String} (same : r'.status? uuid = r.status? uuid) :
    r.changeOf? r' now uuid = none := by
  unfold changeOf? change?
  rw [same]
  cases r.status? uuid <;> simp

theorem changeOf?_of_absent {uuid : String} (absent : uuid ∉ r'.agents.keys) :
    r.changeOf? r' now uuid = none := by
  have unknown : r'.get? uuid = none := by
    rw [Table.mem_keys] at absent
    unfold Table.contains at absent
    change r'.agents.get? uuid = none
    simpa using absent
  unfold changeOf? status?
  rw [unknown]
  rfl

theorem uuid_of_changeOf? {uuid : String} {c : StatusChange}
    (h : r.changeOf? r' now uuid = some c) : c.uuid = uuid := by
  obtain ⟨status, -, h⟩ := Option.bind_eq_some_iff.1 h
  unfold change? at h
  split_ifs at h
  cases h
  rfl

/-- All changes are of one agent if no other changes. -/
theorem changes_of_one {uuid : String} (others : ∀ q ≠ uuid, r'.status? q = r.status? q) :
    r.changes r' now = (r.changeOf? r' now uuid).toList :=
  filterMap_of_only r'.agents.nodup_keys
    (fun q _ hq => changeOf?_of_same now (others q hq)) (changeOf?_of_absent now)

theorem filter_changes (uuid : String) : (r.changes r' now).filter (·.uuid = uuid) =
    (r.changeOf? r' now uuid).toList := by
  have own (q : String) : (r.changeOf? r' now q).filter (·.uuid = uuid) =
      if q = uuid then r.changeOf? r' now uuid else none := by
    cases hc : r.changeOf? r' now q with
    | none =>
      split_ifs with hq
      · rw [← hq, hc]; rfl
      · rfl
    | some c =>
      have named := uuid_of_changeOf? now hc
      split_ifs with hq
      · rw [← hq, hc, Option.filter_some, named]
        simp [hq]
      · rw [Option.filter_some, named]
        simp [hq]
  unfold changes
  rw [List.filter_filterMap, filterMap_of_only r'.agents.nodup_keys]
  · rw [own, if_pos rfl]
  · intro q _ hq
    rw [own, if_neg hq]
  · intro absent
    rw [changeOf?_of_absent now absent]
    rfl

end Changes

/-- A roster keeps the last of these changes. -/
def Kept (r : Roster) (trail : List StatusChange) : Prop :=
  r.history = trail.reverse.take historyLimit

section Kept

variable {r : Roster} {trail : List StatusChange} (h : r.Kept trail) (now : Timestamp)
include h

theorem Kept.recordChange (c : StatusChange) : (r.recordChange c).Kept (trail ++ [c]) := by
  unfold Kept at h ⊢
  change (c :: r.history).take historyLimit = _
  rw [h, List.reverse_append]
  change (c :: trail.reverse.take historyLimit).take historyLimit =
    (c :: trail.reverse).take historyLimit
  unfold historyLimit
  rw [List.take_succ_cons, List.take_take, List.take_succ_cons]
  rfl

theorem Kept.setStatus (uuid : String) (a : AgentRecord) (status : AgentStatus) :
    (r.setStatus uuid a status now).Kept
      (trail ++ (change? uuid (some a.status) status now).toList) := by
  unfold Roster.setStatus change?
  by_cases same : a.status = status
  · rw [if_pos same, if_pos (congrArg some same), Option.toList_none, List.append_nil]
    exact h
  · rw [if_neg same, if_neg fun hs => same (Option.some.inj hs)]
    exact h.recordChange _

theorem Kept.foldl_setStatus (status : AgentStatus) {es : List (String × AgentRecord)}
    (differ : ∀ e ∈ es, e.2.status ≠ status) :
    (es.foldl (fun r e => r.setStatus e.1 e.2 status now) r).Kept
      (trail ++ es.map fun e => ⟨e.1, some e.2.status, status, now⟩) := by
  induction es generalizing r trail with
  | nil => rwa [List.map_nil, List.append_nil]
  | cons e rest ih =>
    have changed : change? e.1 (some e.2.status) status now =
        some ⟨e.1, some e.2.status, status, now⟩ :=
      if_neg fun same => differ e List.mem_cons_self (Option.some.inj same)
    have here := h.setStatus now e.1 e.2 status
    rw [changed] at here
    have later := ih here fun e he => differ e (List.mem_cons_of_mem _ he)
    rwa [List.append_assoc] at later

theorem Kept.register_of_new {info : Snapshot} (absent : r.get? info.uuid = none) :
    (r.register info now).2.Kept
      (trail ++ [⟨info.uuid, none, (r.met now info).status, now⟩]) := by
  unfold register met
  rw [absent]
  exact h.recordChange _

end Kept

theorem status_hear_first (autoRegister : Bool) (info : Snapshot) (now : Timestamp) :
    ((AgentRecord.first autoRegister info now).hear info now).status =
      (AgentRecord.first autoRegister info now).status := by
  cases autoRegister with
  | false => rfl
  | true =>
    change (if info.reportedStatus.isHeld then _ else info.reportedStatus) = info.reportedStatus
    exact ite_self _

theorem observe_snd_of_admitted (r : Roster) (now : Timestamp) {info : Snapshot}
    (admitted : (r.met now info).admits info = true) : (r.observe info now).2 =
      (r.register info now).2.setStatus info.uuid
        { r.met now info with info, lastSeen := now }
        ((r.met now info).hear info now).status now := by
  unfold observe
  rw [← register_fst] at admitted ⊢
  simp only [admitted, if_true]
  rfl

theorem status_of_isSilent {a : AgentRecord} {timeout : Nat} {now : Timestamp}
    (silent : isSilent a timeout now = true) : a.status ≠ .lostContact := by
  unfold isSilent at silent
  rintro lost
  simp [lost] at silent

/-- A sweep changes the status of the agents that have been silent. -/
theorem changes_sweepLostContact (r : Roster) (timeout : Nat) (now : Timestamp) :
    r.changes (r.sweepLostContact timeout now).2 now =
      (r.agents.entries.filter fun e => isSilent e.2 timeout now).map
        fun e => ⟨e.1, some e.2.status, .lostContact, now⟩ := by
  let r' := (r.sweepLostContact timeout now).2
  have after (q : String) : r'.get? q =
      (r.get? q).map fun a => a.after q now (.sweepLostContact timeout) :=
    r.get?_sweepLostContact now timeout q
  have keys : r'.agents.keys = r.agents.keys := by
    refine Table.keys_eq_of_contains fun q => ?_
    change (r'.get? q).isSome = (r.get? q).isSome
    rw [after, Option.isSome_map]
  change r'.agents.keys.filterMap _ = _
  rw [keys, Table.keys, List.filterMap_map, ← List.filterMap_eq_map, List.filterMap_filter]
  refine List.filterMap_congr fun e he => ?_
  have known : r.get? e.1 = some e.2 := Entries.lookup_of_mem r.agents.sorted he
  have status : r.status? e.1 = some e.2.status := status?_of_known known
  by_cases silent : isSilent e.2 timeout now = true
  · have lost : r'.status? e.1 = some .lostContact := by
      rw [status?, after, known]
      simp [AgentRecord.after, silent]
    rw [if_pos silent, Function.comp_apply, changeOf?, lost, status]
    exact if_neg fun same => status_of_isSilent silent (Option.some.inj same)
  · rw [if_neg silent]
    refine changeOf?_of_same now ?_
    rw [status?, after, known, status]
    simp [AgentRecord.after, silent]

variable {r : Roster} {trail : List StatusChange} (h : r.Kept trail) (now : Timestamp)
include h

theorem Kept.unchanged {r' : Roster} (history : r'.history = r.history)
    (same : ∀ q, r'.status? q = r.status? q) : r'.Kept (trail ++ r.changes r' now) := by
  have nothing : r.changes r' now = [] :=
    List.filterMap_eq_nil_iff.2 fun q _ => changeOf?_of_same now (same q)
  rw [nothing, List.append_nil]
  exact history.trans h

theorem Kept.given {uuid : String} {a : AgentRecord} (known : r.status? uuid = some a.status)
    (status : AgentStatus) : (r.setStatus uuid a status now).Kept
      (trail ++ r.changes (r.setStatus uuid a status now) now) := by
  have after (q : String) : (r.setStatus uuid a status now).status? q =
      if q = uuid then some status else r.status? q := by
    unfold status?
    rw [get?_setStatus]
    split_ifs <;> rfl
  have one : r.changes (r.setStatus uuid a status now) now =
      (change? uuid (some a.status) status now).toList := by
    rw [changes_of_one now fun q hq => by rw [after, if_neg hq]]
    unfold changeOf?
    rw [after, if_pos rfl, known]
    rfl
  rw [one]
  exact h.setStatus now uuid a status

theorem Kept.approve (uuid : String) : (r.after now (.approve uuid)).Kept
    (trail ++ r.changes (r.after now (.approve uuid)) now) := by
  change (r.approve uuid now).2.Kept (trail ++ r.changes (r.approve uuid now).2 now)
  unfold Roster.approve
  cases known : r.get? uuid with
  | none => exact h.unchanged now rfl fun _ => rfl
  | some a =>
    dsimp only
    split_ifs with held
    · exact h.given now (status?_of_known known) _
    · exact h.unchanged now rfl fun _ => rfl

theorem Kept.disable (uuid : String) : (r.after now (.disable uuid)).Kept
    (trail ++ r.changes (r.after now (.disable uuid)) now) := by
  change (r.disable uuid now).2.Kept (trail ++ r.changes (r.disable uuid now).2 now)
  unfold Roster.disable
  cases known : r.get? uuid with
  | none => exact h.unchanged now rfl fun _ => rfl
  | some a => exact h.given now (status?_of_known known) _

theorem Kept.registered {r' : Roster} {info : Snapshot} (absent : r.get? info.uuid = none)
    (history : r'.history = (r.register info now).2.history)
    (status : ∀ q, r'.status? q =
      if q = info.uuid then some (r.met now info).status else r.status? q) :
    r'.Kept (trail ++ r.changes r' now) := by
  have unknown : r.status? info.uuid = none := by
    rw [status?, absent]
    rfl
  have one : r.changes r' now = [⟨info.uuid, none, (r.met now info).status, now⟩] := by
    rw [changes_of_one now fun q hq => by rw [status, if_neg hq]]
    unfold changeOf?
    rw [status, if_pos rfl, unknown]
    rfl
  rw [one]
  exact history.trans (h.register_of_new now absent)

theorem Kept.issueCookie (identity : AgentIdentity) (location : String) (cookie : Cookie) :
    (r.issueCookie identity location cookie now).Kept
      (trail ++ r.changes (r.issueCookie identity location cookie now) now) := by
  let info : Snapshot := .fresh identity location
  have status (q : String) : (r.issueCookie identity location cookie now).status? q =
      if q = info.uuid then some (r.met now info).status else r.status? q := by
    unfold status? Roster.issueCookie
    rw [get?_put, get?_register, register_fst]
    change Option.map _ (if q = info.uuid then _ else if q = info.uuid then _ else _) = _
    split_ifs <;> rfl
  cases known : r.get? info.uuid with
  | none => exact h.registered now known rfl status
  | some a =>
    have met : r.met now info = a := r.met_of_known now known
    have history : (r.issueCookie identity location cookie now).history = r.history := by
      unfold Roster.issueCookie
      rw [register_of_known r now known]
      rfl
    refine h.unchanged now history fun q => ?_
    rw [status, met]
    split_ifs with hq
    · rw [hq, status?_of_known known]
    · rfl

theorem Kept.observe (info : Snapshot) : (r.observe info now).2.Kept
    (trail ++ r.changes (r.observe info now).2 now) := by
  by_cases admitted : (r.met now info).admits info = true
  · have after := r.observe_snd_of_admitted now admitted
    rw [after]
    cases known : r.get? info.uuid with
    | some a =>
      rw [register_of_known r now known, r.met_of_known now known]
      have before : r.status? info.uuid = some a.status := status?_of_known known
      exact h.given now (a := { a with info, lastSeen := now }) before _
    | none =>
      have status : ((r.met now info).hear info now).status = (r.met now info).status := by
        rw [r.met_of_new now known, status_hear_first]
      -- An agent is registered in the very status that it is then given.
      rw [← after]
      refine h.registered now known ?_ fun q => ?_
      · rw [after, status]
        unfold Roster.setStatus
        rw [if_pos rfl]
        rfl
      · unfold status?
        rw [(observe_of_admitted r now admitted).2, ← status]
        split_ifs <;> rfl
  · rw [(observe_of_refused r now (by simpa using admitted)).2]
    exact h.unchanged now rfl fun _ => rfl

theorem Kept.sweepLostContact (timeout : Nat) :
    (r.after now (.sweepLostContact timeout)).Kept
      (trail ++ r.changes (r.after now (.sweepLostContact timeout)) now) := by
  change Kept (r.sweepLostContact timeout now).2
    (trail ++ r.changes (r.sweepLostContact timeout now).2 now)
  rw [changes_sweepLostContact]
  refine h.foldl_setStatus now .lostContact fun e he => ?_
  exact status_of_isSilent (List.mem_filter.1 he).2

/-- A call records the changes of status that it makes. -/
theorem kept_after (c : Call) : (r.after now c).Kept (trail ++ r.changes (r.after now c) now) := by
  cases c with
  | observe info => exact h.observe now info
  | issueCookie identity location cookie => exact h.issueCookie now identity location cookie
  | approve uuid => exact h.approve now uuid
  | disable uuid => exact h.disable now uuid
  | sweepLostContact timeout => exact h.sweepLostContact now timeout

end Roster

end BuildDispatch
