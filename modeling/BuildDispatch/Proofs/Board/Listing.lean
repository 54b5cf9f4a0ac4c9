import BuildDispatch.Proofs.Board.Sound
import Mathlib.Data.List.Range

/-!
The list of a board. No job is left out, none is listed twice, and they stand in the order in which
they were made (`Board.no_job_forgotten`).
-/
namespace BuildDispatch

namespace JobSummary

def sort (summaries : List JobSummary) : List JobSummary :=
  summaries.mergeSort fun s t => s.ref.buildId ≤ t.ref.buildId

/-- Jobs with different numbers can be sorted in one way only. -/
theorem sort_eq_of_perm {summaries rising : List JobSummary} (same : summaries.Perm rising)
    (h : rising.Pairwise fun s t => s.ref.buildId < t.ref.buildId) : sort summaries = rising := by
  have sorted : (sort summaries).Pairwise fun s t => s.ref.buildId ≤ t.ref.buildId := by
    have checked : (sort summaries).Pairwise
        fun s t => decide (s.ref.buildId ≤ t.ref.buildId) = true := by
      apply List.pairwise_mergeSort
      · intro s t u
        simpa using UInt64.le_trans
      · intro s t
        simpa using UInt64.le_total _ _
    exact checked.imp of_decide_eq_true
  have arranged : (sort summaries).Perm rising := (List.mergeSort_perm _ _).trans same
  have apart : (rising.map (·.ref.buildId)).Nodup := List.pairwise_map.2 (h.imp UInt64.ne_of_lt)
  apply arranged.eq_of_pairwise _ sorted (h.imp UInt64.le_of_lt)
  intro s t hs ht le ge
  exact List.inj_on_of_nodup_map apart (arranged.mem_iff.1 hs) ht (UInt64.le_antisymm le ge)

end JobSummary

namespace Board

/-- The board grows by the job that is made. -/
theorem Effect.size_eq {b b' : Board} {now : Timestamp} {c : Call} {a : Answer}
    (e : b.Effect now c a b') (h : b.Numbered) :
    b'.jobs.size = b.jobs.size + a.made?.toList.length := by
  cases e with
  | still _ _ made => rw [made]; rfl
  | @moved _ j j' stored m =>
    have there : (b.take c j.buildId).jobs.contains j'.buildId = true := by
      rw [m.buildId_eq]
      exact contains_of_get? stored
    rw [m.made?_eq, size_commit there]
    rfl
  | added => exact h.size_insertScheduled _ _ _
  | @replaced _ j stored running r =>
    let left := b.leaveWaiting j.buildId
    have numbered : left.Numbered := ⟨h.next, h.used⟩
    have there : left.jobs.contains (j.enter .rescheduled now).buildId = true :=
      contains_of_get? stored
    have one : a.made?.toList.length = 1 := by cases r <;> rfl
    have grown := (numbered.commit there).size_insertScheduled j.ref j.plan now
    rw [size_commit there] at grown
    rw [one]
    exact grown

/-- Jobs are made with the numbers from one on, in this order. -/
theorem made_session (steps : List (Step Call))
    (few : (made (session steps).log).length < 2 ^ 64 - 1) :
    (made (session steps).log).map UInt64.toNat =
      List.range' 1 (session steps).state.jobs.size := by
  refine session_induction (P := fun s =>
    (made s.log).map UInt64.toNat = List.range' 1 s.state.jobs.size) rfl ?_ steps few
  intro s x coherent numbered ih
  have e := coherent.perform_effect x.now x.call
  rw [made_call, state_call, List.map_append, ih, e.size_eq numbered]
  cases made : (s.state.perform x.now x.call).1.made? with
  | none => simp
  | some id =>
    have next : id.toNat = 1 + s.state.jobs.size := by
      rw [e.eq_nextId_of_made? made, numbered.next, Nat.add_comm]
    simp [List.range'_concat, next]

theorem size_session (steps : List (Step Call))
    (few : (made (session steps).log).length < 2 ^ 64 - 1) :
    (session steps).state.jobs.size = (made (session steps).log).length := by
  have numbers := congrArg List.length (made_session steps few)
  rw [List.length_map, List.length_range'] at numbers
  exact numbers.symm

theorem keys_rising (b : Board) : b.jobs.keys.Pairwise (· < ·) :=
  List.pairwise_map.2 (b.jobs.sorted.imp fun before => compareOfLessAndEq_eq_lt.1 before)

theorem Numbered.keys_eq {b : Board} (h : b.Numbered) :
    b.jobs.keys.map UInt64.toNat = List.range' 1 b.jobs.size := by
  have rising : (b.jobs.keys.map UInt64.toNat).Pairwise (· < ·) :=
    List.pairwise_map.2 (b.keys_rising.imp UInt64.lt_iff_toNat_lt.1)
  have ranged : (List.range' 1 b.jobs.size).Pairwise (· < ·) := List.pairwise_lt_range'
  have same : (b.jobs.keys.map UInt64.toNat).Perm (List.range' 1 b.jobs.size) := by
    refine (List.perm_ext_iff_of_nodup (rising.imp Nat.ne_of_lt) (ranged.imp Nat.ne_of_lt)).2
      fun n => ?_
    rw [List.mem_map, List.mem_range'_1]
    constructor
    · rintro ⟨id, listed, rfl⟩
      have := (h.used id).1 (Table.mem_keys.1 listed)
      omega
    · intro range
      have next := h.next
      have bound : b.nextId.toNat < UInt64.size := b.nextId.toNat_lt
      have back : (UInt64.ofNat n).toNat = n := UInt64.toNat_ofNat_of_lt' (by omega)
      refine ⟨UInt64.ofNat n, Table.mem_keys.2 ((h.used _).2 ?_), back⟩
      rw [back]
      omega
  exact same.eq_of_pairwise (fun a b _ _ lt gt => absurd gt (Nat.lt_asymm lt)) rising ranged

theorem Coherent.map_buildId {b : Board} (h : b.Coherent) :
    b.jobs.values.map Job.buildId = b.jobs.keys := by
  unfold Table.values Table.keys
  rw [List.map_map]
  refine List.map_congr_left fun e listed => h.keyed ?_
  exact Entries.lookup_of_mem b.jobs.sorted listed

theorem Coherent.get?_eq_some_iff {b : Board} (h : b.Coherent) {id : BuildId} {j : Job} :
    b.get? id = some j ↔ j ∈ b.jobs.values ∧ j.buildId = id := by
  constructor
  · intro stored
    exact ⟨List.mem_map.2 ⟨_, Entries.mem_of_lookup stored, rfl⟩, h.keyed stored⟩
  · rintro ⟨listed, rfl⟩
    obtain ⟨⟨key, j⟩, entry, rfl⟩ := List.mem_map.1 listed
    have stored : b.get? key = some j := Entries.lookup_of_mem b.jobs.sorted entry
    rw [h.keyed stored]
    exact stored

theorem Coherent.values_rising {b : Board} (h : b.Coherent) :
    b.jobs.values.Pairwise fun j k => j.buildId < k.buildId := by
  rw [← List.pairwise_map (f := Job.buildId), h.map_buildId]
  exact b.keys_rising

/-- The jobs may be taken in any order, since the list is sorted by their numbers. -/
theorem Coherent.sort_eq_list {b : Board} (h : b.Coherent) (all : Bool) {jobs : List Job}
    (same : jobs.Perm b.jobs.values) :
    JobSummary.sort ((jobs.filter fun j => all || !j.isTerminal).map .of) = b.list all := by
  apply JobSummary.sort_eq_of_perm ((same.filter _).map _)
  exact List.pairwise_map.2 (h.values_rising.filter _)

/--
No job is forgotten. The list of all jobs is that of the jobs made, with the numbers from one on, in
this order, and each as it is now; without those that have ended, it has as many as are counted. It
does not depend on how the jobs are arranged before they are sorted.
-/
theorem no_job_forgotten (steps : List (Step Call))
    (few : (made (session steps).log).length < 2 ^ 64 - 1) :
    let b := (session steps).state
    let n := (made (session steps).log).length
    (∃ jobs : List Job, jobs.map (·.buildId.toNat) = List.range' 1 n ∧
      (∀ id j, b.get? id = some j ↔ j ∈ jobs ∧ j.buildId = id) ∧ b.list true = jobs.map .of) ∧
    b.list false = (b.list true).filter (fun s => !s.state.isTerminal) ∧
    b.activeCount = (b.list false).length ∧
    (∀ (all : Bool) (jobs : List Job), jobs.Perm b.jobs.values →
      JobSummary.sort ((jobs.filter fun j => all || !j.isTerminal).map .of) = b.list all) := by
  intro b n
  have coherent : b.Coherent := coherent_session steps
  have numbered : b.Numbered := numbered_session few
  have whole : b.list true = b.jobs.values.map .of := by simp [list]
  refine ⟨⟨b.jobs.values, ?_, fun id j => coherent.get?_eq_some_iff, whole⟩, ?_, ?_, ?_⟩
  · have numbers := numbered.keys_eq
    rw [← coherent.map_buildId, List.map_map, size_session steps few] at numbers
    exact numbers
  · rw [whole, List.filter_map]
    rfl
  · exact (List.length_map _).symm
  · exact fun all jobs same => coherent.sort_eq_list all same

/-- Three jobs are made in the first calls of `relay`, and one of them has not ended. -/
theorem no_job_forgotten_halfway :
    let b := (session (relay.take 7)).state
    (made (session (relay.take 7)).log).length = 3 ∧
    (b.list true).map (fun s => (s.ref.buildId, s.state, s.agent)) =
      [(1, .rescheduled, some "u1"), (2, .completed, none), (3, .assigned, some "u2")] ∧
    ((b.list true).filter fun s => !s.state.isTerminal).length = 1 := by
  intro b
  have three : (made (session (relay.take 7)).log).length = 3 := by decide
  obtain ⟨-, active, counted, -⟩ := no_job_forgotten (relay.take 7) (by rw [three]; decide)
  refine ⟨three, by decide, ?_⟩
  rw [← active, ← counted]
  decide

end Board

end BuildDispatch
