import BuildDispatch.Dispatcher
import BuildDispatch.Proofs.Roster.Trail

/-!
Sweeps for silent agents. A sweep counts whole milliseconds that saturate, on a clock that may step
back, and still finds the agents that have been silent for longer than a span of time, neither more
nor fewer (`Roster.sweep_finds_silent`).
-/
namespace BuildDispatch

namespace Duration

theorem toNat_wholeMillis (d : Duration) :
    d.wholeMillis.toNat = min (d.nanos / 1000000) (UInt64.size - 1) := by
  refine UInt64.toNat_ofNat_of_lt ?_
  have positive : 0 < UInt64.size := by decide
  change _ < UInt64.size
  omega

/-- What 64 bits can tell is longer than a span if it is longer than its whole milliseconds. -/
theorem wholeMillis_lt_iff (d : Duration) {n : Nat} (small : n < UInt64.size) :
    d.wholeMillis.toNat < n ↔ d.nanos < n * 1000000 := by
  rw [toNat_wholeMillis]
  omega

end Duration

namespace Timestamp

/-- More than a span of time has passed since a reading. A reading that lies ahead is of now. -/
def Exceeds (timeout : Duration) (earlier now : Timestamp) : Prop :=
  timeout.nanos < (now.toNat - earlier.toNat) * 1000000

instance (timeout : Duration) (earlier now : Timestamp) : Decidable (Exceeds timeout earlier now) :=
  inferInstanceAs (Decidable (_ < _))

theorem toNat_since (now earlier : Timestamp) :
    (now.since earlier).toNat = now.toNat - earlier.toNat := by
  unfold since
  split_ifs with past
  · exact UInt64.toNat_sub_of_le _ _ past
  · have ahead : now.toNat < earlier.toNat := UInt64.lt_iff_toNat_lt.1 (UInt64.not_le.1 past)
    exact (Nat.sub_eq_zero_of_le ahead.le).symm

theorem wholeMillis_lt_since (timeout : Duration) (earlier now : Timestamp) :
    timeout.wholeMillis.toNat < (now.since earlier).toNat ↔ Exceeds timeout earlier now := by
  rw [timeout.wholeMillis_lt_iff (UInt64.toNat_lt_size _), toNat_since]
  rfl

theorem Exceeds.of_shorter {timeout longer : Duration} {earlier now : Timestamp}
    (shorter : timeout.nanos ≤ longer.nanos) (h : Exceeds longer earlier now) :
    Exceeds timeout earlier now := shorter.trans_lt h

/-- No two readings of 64 bits lie so far apart. -/
theorem not_exceeds_of_unreadable {timeout : Duration}
    (unreadable : UInt64.size * 1000000 ≤ timeout.nanos) (earlier now : Timestamp) :
    ¬Exceeds timeout earlier now := by
  have small := now.toNat_lt_size
  unfold Exceeds
  omega

end Timestamp

namespace Roster

open Timestamp (Exceeds)

variable (r : Roster) (timeout : Duration) (now : Timestamp)

theorem isSilent_iff (a : AgentRecord) : isSilent a timeout.wholeMillis.toNat now = true ↔
    a.status ∉ [.pending, .disabled, .lostContact] ∧ Exceeds timeout a.lastSeen now := by
  unfold isSilent
  rw [Bool.and_eq_true, decide_eq_true_iff, Timestamp.wholeMillis_lt_since]
  cases a.status <;> simp [AgentStatus.isHeld]

theorem mem_sweep (uuid : String) : uuid ∈ (r.sweep timeout now).1 ↔
    ∃ a, r.get? uuid = some a ∧ a.status ∉ [.pending, .disabled, .lostContact] ∧
      Exceeds timeout a.lastSeen now := by
  simp only [← isSilent_iff]
  change uuid ∈ List.map _ (List.filter _ r.agents.entries) ↔ _
  simp only [List.mem_map, List.mem_filter]
  constructor
  · rintro ⟨e, ⟨he, silent⟩, rfl⟩
    exact ⟨e.2, Entries.lookup_of_mem r.agents.sorted he, silent⟩
  · rintro ⟨a, known, silent⟩
    exact ⟨(uuid, a), ⟨Entries.mem_of_lookup known, silent⟩, rfl⟩

theorem nodup_sweep : (r.sweep timeout now).1.Nodup :=
  Entries.nodup_keys (r.agents.sorted.filter fun e => isSilent e.2 timeout.wholeMillis.toNat now)

theorem get?_sweep (uuid : String) : (r.sweep timeout now).2.get? uuid =
    if uuid ∈ (r.sweep timeout now).1 then (r.get? uuid).map ({ · with status := .lostContact })
    else r.get? uuid := by
  refine (r.get?_sweepLostContact now timeout.wholeMillis.toNat uuid).trans ?_
  simp only [mem_sweep, AgentRecord.after, isSilent_iff]
  cases r.get? uuid with
  | none => split_ifs <;> rfl
  | some a =>
    simp only [Option.map_some, Option.some.injEq, exists_eq_left']
    split_ifs <;> rfl

theorem sweep_of_nobody {r : Roster} {timeout : Duration} {now : Timestamp}
    (nobody : ∀ uuid, uuid ∉ (r.sweep timeout now).1) : r.sweep timeout now = ([], r) := by
  have silent : (r.agents.entries.filter fun e =>
      isSilent e.2 timeout.wholeMillis.toNat now) = [] :=
    List.map_eq_nil_iff.1 (List.eq_nil_iff_forall_not_mem.2 nobody)
  unfold sweep sweepLostContact
  rw [silent]
  rfl

/-- A sweep finds nobody whom a sweep has just marked. -/
theorem sweep_sweep {longer : Duration} (shorter : timeout.nanos ≤ longer.nanos) :
    (r.sweep timeout now).2.sweep longer now = ([], (r.sweep timeout now).2) := by
  refine sweep_of_nobody fun uuid again => ?_
  obtain ⟨a, known, watched, exceeds⟩ := (mem_sweep _ _ _ _).1 again
  rw [get?_sweep] at known
  split_ifs at known with lost
  · obtain ⟨b, -, rfl⟩ := Option.map_eq_some_iff.1 known
    exact watched (by simp)
  · exact lost ((r.mem_sweep _ _ _).2 ⟨a, known, watched, exceeds.of_shorter shorter⟩)

def marked (r : Roster) (lost : List String) (now : Timestamp) : List StatusChange :=
  lost.map fun uuid => ⟨uuid, r.status? uuid, .lostContact, now⟩

theorem Kept.history_sweep {r : Roster} {trail : List StatusChange} (h : r.Kept trail)
    (timeout : Duration) (now : Timestamp) : (r.sweep timeout now).2.history =
      ((r.marked (r.sweep timeout now).1 now).reverse ++ r.history).take historyLimit := by
  refine (h.history_perform ⟨.sweep timeout, now⟩).trans ?_
  congr 3
  refine (r.changes_sweepLostContact timeout.wholeMillis.toNat now).trans ?_
  refine Eq.trans ?_ (List.map_map (l := r.agents.entries.filter _)).symm
  refine List.map_congr_left fun e he => ?_
  have known : r.get? e.1 = some e.2 :=
    Entries.lookup_of_mem r.agents.sorted (List.mem_filter.1 he).1
  change _ = StatusChange.mk e.1 (r.status? e.1) .lostContact now
  rw [status?_of_known known]

/--
A sweep names the agents that are neither held nor marked and from which more than the given span
has passed since they were heard last. These are marked, each change is recorded, and all else stays
as it is, the jobs included. No agent is marked for a span that the clock cannot measure.
-/
theorem sweep_finds_silent (autoRegister : Bool) (steps : List (Step Operation))
    (timeout : Duration) (now : Timestamp) :
    let s := session autoRegister steps
    let lost := (s.state.sweep timeout now).1
    let r' := (s.state.sweep timeout now).2
    lost.Nodup ∧
    (∀ uuid, uuid ∈ lost ↔ ∃ status info seen, s.state.status? uuid = some status ∧
      status ∉ [.pending, .disabled, .lostContact] ∧
      lastHeard? uuid s.log = some (info, seen) ∧ Exceeds timeout seen now) ∧
    (∀ uuid, r'.get? uuid =
      if uuid ∈ lost then (s.state.get? uuid).map ({ · with status := .lostContact })
      else s.state.get? uuid) ∧
    r'.autoRegister = s.state.autoRegister ∧
    r'.history = ((s.state.marked lost now).reverse ++ s.state.history).take historyLimit ∧
    (∀ d : Dispatcher, d.roster = s.state →
      d.sweepLostContact timeout.wholeMillis.toNat now = (lost, { d with roster := r' })) ∧
    (∀ longer : Duration, timeout.nanos ≤ longer.nanos → r'.sweep longer now = ([], r')) ∧
    (UInt64.size * 1000000 ≤ timeout.nanos → lost = [] ∧ r' = s.state) := by
  intro s lost r'
  refine ⟨nodup_sweep _ _ _, fun uuid => ?_, get?_sweep _ _ _,
    s.state.autoRegister_after now (.sweepLostContact timeout.wholeMillis.toNat),
    (kept_session autoRegister steps).history_sweep timeout now, ?_, fun _ => sweep_sweep _ _ _,
    fun unreadable => ?_⟩
  · rw [mem_sweep]
    constructor
    · rintro ⟨a, known, watched, exceeds⟩
      obtain ⟨info, last, -⟩ := lastHeard?_of_known autoRegister known
      exact ⟨a.status, info, a.lastSeen, status?_of_known known, watched, last, exceeds⟩
    · rintro ⟨status, info, seen, hs, watched, last, exceeds⟩
      obtain ⟨a, known, rfl⟩ := Option.map_eq_some_iff.1 hs
      obtain ⟨_, heard, -⟩ := lastHeard?_of_known autoRegister known
      cases last.symm.trans heard
      exact ⟨a, known, watched, exceeds⟩
  · rintro d same
    unfold Dispatcher.sweepLostContact
    rw [same]
    rfl
  · have nobody (uuid : String) : uuid ∉ lost := by
      rw [mem_sweep]
      rintro ⟨a, -, -, exceeds⟩
      exact Timestamp.not_exceeds_of_unreadable unreadable _ _ exceeds
    have none_lost := sweep_of_nobody nobody
    exact ⟨congrArg Prod.fst none_lost, congrArg Prod.snd none_lost⟩

/-- An agent is heard, and then asks for a cookie and fails to show it. -/
def heardOnce : List (Step Operation) :=
  let identity : AgentIdentity := ⟨"host", "10.0.0.1", "u1"⟩
  [⟨.observe (.fresh identity "/agent"), 5⟩, ⟨.issueCookie identity "/agent" ⟨"c1"⟩, 6⟩,
    ⟨.observe (.fresh identity "/agent"), 9⟩]

theorem sweep_finds_silent_once :
    let s := session true heardOnce
    let timeout : Duration := ⟨2500000, by decide⟩
    let r' := (s.state.sweep timeout 8).2
    "u1" ∈ (s.state.sweep timeout 8).1 ∧ "u1" ∉ (s.state.sweep timeout 7).1 ∧
      r'.status? "u1" = some .lostContact ∧ r'.sweep timeout 8 = ([], r') := by
  intro s timeout r'
  have heard : (lastHeard? "u1" s.log).map Prod.snd = some 5 := by decide
  obtain ⟨⟨info, seen⟩, last, rfl⟩ := Option.map_eq_some_iff.1 heard
  obtain ⟨-, named, found, -, -, -, again, -⟩ := sweep_finds_silent true heardOnce timeout 8
  obtain ⟨-, named_before, -⟩ := sweep_finds_silent true heardOnce timeout 7
  have lost := (named "u1").2 ⟨.idle, info, 5, by decide, by decide, last, by decide⟩
  refine ⟨lost, fun early => ?_, ?_, again timeout (Nat.le_refl _)⟩
  · obtain ⟨_, _, seen, -, -, known, exceeds⟩ := (named_before "u1").1 early
    obtain ⟨-, rfl⟩ := Prod.mk.inj (Option.some.inj (last.symm.trans known))
    exact absurd exceeds (by decide)
  · rw [status?, found, if_pos lost]
    decide

end Roster

end BuildDispatch
