import BuildDispatch.Proofs.Board.Sound

/-!
Oldest first. The list of waiting jobs names all jobs that are scheduled and no others, so that an
agent is given the oldest of all jobs that it can run (`Board.oldest_runnable_first`).
-/
namespace BuildDispatch

theorem Plan.runnableWith_iff {p : Plan} {offered : Keys String} :
    p.runnableWith offered = true ↔
      ∀ tag, p.resources.contains tag = true → offered.contains tag = true := by
  unfold runnableWith Table.within
  rw [List.all_eq_true]
  exact forall_congr' fun tag => by rw [Table.mem_keys]

namespace Board

/-- A job waits, and the agent offers all that it takes. -/
structure Suits (b : Board) (info : Snapshot) (id : BuildId) (j : Job) : Prop where
  stored : b.get? id = some j
  waits : j.state = .scheduled
  offered : ∀ tag, j.plan.resources.contains tag = true → info.resources.contains tag = true

/-- The first of all jobs that the agent can run. -/
structure Oldest (b : Board) (info : Snapshot) (id : BuildId) (j : Job) : Prop extends
    b.Suits info id j where
  first : ∀ other k, b.Suits info other k → id ≤ other

theorem lt_of_waiting {b : Board} {older rest : List BuildId} {id other : BuildId}
    (hk : b.waiting.keys = older ++ id :: rest) (ho : other ∈ rest) : id < other := by
  have hs : b.waiting.keys.Pairwise fun i k => compare i k = .lt :=
    List.pairwise_map.2 b.waiting.sorted
  rw [hk] at hs
  have hc := (List.pairwise_cons.1 (List.pairwise_append.1 hs).2.1).1 other ho
  exact compareOfLessAndEq_eq_lt.1 hc

/-- The oldest job that the agent can run is handed out, or there is none. -/
theorem Coherent.assignNext_cases {b : Board} (h : b.Coherent) (info : Snapshot)
    (now : Timestamp) :
    (b.assignNext info now = (none, b) ∧ ∀ id j, ¬b.Suits info id j) ∨
      ∃ id j, b.Oldest info id j ∧ b.assignNext info now =
        (some ⟨j.ref, j.plan⟩, (b.take (.assignNext info) id).commit
          ({ j with agent := some info.uuid }.enter .assigned now)) := by
  have waits : ∀ id ∈ b.waiting.keys, ∃ j, b.get? id = some j ∧ j.state = .scheduled :=
    fun id hi => (h.listed id).1 (Table.mem_keys.1 hi)
  have listed : ∀ {id j}, b.Suits info id j → id ∈ b.waiting.keys :=
    fun hs => Table.mem_keys.2 ((h.listed _).2 ⟨_, hs.stored, hs.waits⟩)
  have passed : ∀ {id j}, b.Suits info id j →
      ¬∀ k, b.get? id = some k → k.plan.runnableWith info.resources = false := by
    intro id j hs hp
    have hr := hp j hs.stored
    rw [Plan.runnableWith_iff.2 hs.offered] at hr
    cases hr
  unfold assignNext
  rcases assignAmong_cases info now waits with ⟨he, hn⟩ | ⟨older, id, rest, j, hk, hj, hs, hr, ho, he⟩
  · exact .inl ⟨he, fun id j hs => passed hs (hn id (listed hs))⟩
  · refine .inr ⟨id, j, ⟨⟨hj, hs, Plan.runnableWith_iff.1 hr⟩, ?_⟩, he⟩
    -- What is listed before the job was passed over, and what is listed after it is younger.
    intro other k suits
    have hm := listed suits
    rw [hk, List.mem_append, List.mem_cons] at hm
    rcases hm with hm | rfl | hm
    · exact absurd (ho other hm) (passed suits)
    · exact UInt64.le_refl _
    · exact UInt64.le_of_lt (lt_of_waiting hk hm)

/--
The list of waiting jobs names those that are scheduled. An agent is given the oldest of all the
jobs that it can run, and no other job changes; it is given none if there is none, and nothing
changes then.
-/
theorem oldest_runnable_first (steps : List (Step Call)) :
    let b := (session steps).state
    (∀ id, b.waiting.contains id = true ↔ ∃ j, b.get? id = some j ∧ j.state = .scheduled) ∧
    ∀ info now,
      let work := (b.assignNext info now).1
      let b' := (b.assignNext info now).2
      (∀ assignment, work = some assignment → ∃ id j, b.Oldest info id j ∧ j.buildId = id ∧
        assignment = ⟨j.ref, j.plan⟩ ∧
        b'.get? id = some ({ j with agent := some info.uuid }.enter .assigned now) ∧
        ∀ other, other ≠ id → b'.get? other = b.get? other) ∧
      (work = none ↔ ∀ id j, ¬b.Suits info id j) ∧
      (work = none → b' = b) := by
  intro b
  have h : b.Coherent := coherent_session steps
  refine ⟨h.listed, fun info now => ?_⟩
  dsimp only
  rcases h.assignNext_cases info now with ⟨he, hn⟩ | ⟨id, j, oldest, he⟩
  · rw [he]
    exact ⟨by simp, by simpa using hn, fun _ => rfl⟩
  · have hid := h.keyed oldest.stored
    rw [he]
    refine ⟨?_, by simpa using ⟨id, j, oldest.toSuits⟩, by simp⟩
    rintro _ ⟨⟩
    refine ⟨id, j, oldest, hid, rfl, ?_, fun other hne => ?_⟩
    · rw [get?_commit]
      exact if_pos hid.symm
    · rw [get?_commit]
      exact if_neg fun ho => hne (ho.trans hid)

/-- A session in which the oldest job takes what not every agent offers. -/
def choosy : List (Step Call) :=
  [⟨.create ⟨"site", "1", "build", "train", Plan.empty.withResources (.ofKeys ["gpu"])⟩, 5⟩,
    ⟨.create ⟨"site", "1", "build", "compile", .empty⟩, 6⟩,
    ⟨.create ⟨"site", "1", "build", "test", .empty⟩, 7⟩]

theorem oldest_runnable_first_choosy :
    let agent : Snapshot := .fresh ⟨"host", "10.0.0.1", "u1"⟩ "/agent"
    ((session choosy).state.assignNext agent 9).1.map (·.job.buildId) = some 2 ∧
      ∃ j, (session choosy).state.Oldest agent 2 j := by
  intro agent
  have hw : ((session choosy).state.assignNext agent 9).1.map (·.job.buildId) = some 2 := by decide
  obtain ⟨assignment, hg, ha⟩ := Option.map_eq_some_iff.1 hw
  obtain ⟨id, j, oldest, hid, rfl, -⟩ := ((oldest_runnable_first choosy).2 agent 9).1 assignment hg
  have hid : id = 2 := hid.symm.trans ha
  subst hid
  exact ⟨hw, j, oldest⟩

end Board

end BuildDispatch
