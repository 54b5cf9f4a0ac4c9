import BuildDispatch.Proofs.Dispatcher.Authority

/-!
Names of jobs. No two jobs that stand have the same names, as long as there are `Few` jobs
(`Dispatcher.live_names_unique`): labels go back to the counter of the pipeline, the names of the
jobs of a stage are apart, and a job is retired before its copy takes its names.
-/
namespace BuildDispatch

/-- The names under which operators know a job. -/
def JobRequest.names (r : JobRequest) : String × String × String × String :=
  (r.pipeline, r.label, r.stage, r.job)

theorem Stage.Usable.names_nodup {stage : Stage} (h : stage.Usable) (c : BuildCause) :
    (stage.jobs.map fun j => (j.request c stage.name).names).Nodup := by
  refine List.Nodup.of_map (fun names => names.2.2.2) ?_
  rw [List.map_map]
  exact h.names

namespace Board

/-- The jobs that stand have names of their own, and their labels are those of runs. -/
structure Named (b : Board) : Prop where
  distinct : (b.standing.map JobRequest.names).Nodup
  labelled : ∀ r ∈ b.standing, ∃ n, r.label = Text.decimal n ∧
    n ≤ (b.repository.counter r.pipeline).toNat
  counted : ∀ q, (b.repository.counter q).toNat ≤ b.jobs.size

theorem named_empty : empty.Named where
  distinct := Multiset.nodup_zero
  labelled := by intro r hr; cases hr
  counted q := Nat.zero_le _

theorem Effect.named {b b' : Board} {now : Timestamp} {c : Call} {a : Answer}
    (e : b.Effect now c a b') (unasked : ∀ request, c ≠ .create request) (numbered : b.Numbered)
    (h : b.Named) : b'.Named := by
  have standing : b'.standing = b.standing := by
    have added := e.standing_eq numbered.fresh
    cases c with
    | create request => exact absurd rfl (unasked request)
    | _ => exact added.trans (add_zero _)
  constructor
  case distinct => rw [standing]; exact h.distinct
  case labelled =>
    intro r hr
    rw [standing] at hr
    rw [e.counter_eq]
    exact h.labelled r hr
  case counted =>
    intro q
    rw [e.counter_eq]
    exact (h.counted q).trans e.size_le

/-- The jobs of a run are known by a label that no job has yet. -/
theorem Launched.named {b b' : Board} {c : BuildCause} {stage : Stage} {now : Timestamp}
    (launched : b.Launched c stage now b') (usable : stage.Usable) (numbered : b.Numbered)
    (few : b'.Few) (h : b.Named) : b'.Named := by
  have standing := launched.standing numbered few
  have grown := launched.grown numbered few
  have some_job : 0 < stage.jobs.length := List.length_pos_iff.2 usable.jobs
  have counted := h.counted c.pipeline
  have small : (b.repository.counter c.pipeline).toNat + 1 < 2 ^ 64 := by
    have bound : b'.jobs.size < 2 ^ 64 - 1 := few
    omega
  have next : c.counter.toNat = (b.repository.counter c.pipeline).toNat + 1 :=
    launched.toNat_counter small
  have current : b'.repository.counter c.pipeline = c.counter :=
    launched.counter_self (launched.counter_ne_zero small)
  constructor
  case distinct =>
    rw [standing, Multiset.map_add, Multiset.nodup_add]
    refine ⟨h.distinct, ?_, ?_⟩
    · rw [Multiset.map_coe, List.map_map]
      exact usable.names_nodup c
    · rw [Multiset.disjoint_left]
      intro names old new
      obtain ⟨r, hr, rfl⟩ := Multiset.mem_map.1 old
      obtain ⟨r', hr', same⟩ := Multiset.mem_map.1 new
      obtain ⟨template, -, rfl⟩ := List.mem_map.1 (Multiset.mem_coe.1 hr')
      obtain ⟨n, hn, hle⟩ := h.labelled r hr
      have pipeline : r.pipeline = c.pipeline := (congrArg Prod.fst same).symm
      have label : c.label = r.label := congrArg (fun names => names.2.1) same
      have newest : c.counter.toNat = n := Text.decimal_injective (label.trans hn)
      rw [pipeline] at hle
      omega
  case labelled =>
    intro r hr
    rw [standing, Multiset.mem_add] at hr
    rcases hr with old | new
    · obtain ⟨n, hn, hle⟩ := h.labelled r old
      refine ⟨n, hn, ?_⟩
      by_cases hp : r.pipeline = c.pipeline
      · rw [hp] at hle ⊢
        rw [current]
        omega
      · rw [launched.counter_of_ne hp]
        exact hle
    · obtain ⟨template, -, rfl⟩ := List.mem_map.1 (Multiset.mem_coe.1 new)
      refine ⟨c.counter.toNat, rfl, ?_⟩
      change _ ≤ (b'.repository.counter c.pipeline).toNat
      rw [current]
  case counted =>
    intro q
    by_cases hq : q = c.pipeline
    · rw [hq, current]
      omega
    · rw [launched.counter_of_ne hq]
      exact (h.counted q).trans launched.size

theorem Named.eq_of_names {b : Board} (h : b.Named) (coherent : b.Coherent) {id id' : BuildId}
    {j j' : Job} (stored : b.get? id = some j) (stored' : b.get? id' = some j')
    (live : j.state ≠ .rescheduled) (live' : j'.state ≠ .rescheduled)
    (same : j.request.names = j'.request.names) : id = id' := by
  have listed {i : BuildId} {k : Job} (hk : b.get? i = some k) (hl : k.state ≠ .rescheduled) :
      k ∈ (b.jobs.values : Multiset Job).filter fun k => k.state ≠ .rescheduled := by
    have entry : (i, k) ∈ b.jobs.entries := Entries.mem_of_lookup hk
    exact Multiset.mem_filter.2 ⟨List.mem_map.2 ⟨_, entry, rfl⟩, hl⟩
  have distinct := h.distinct
  unfold standing requestsOf at distinct
  rw [Multiset.map_map] at distinct
  have one : j = j' :=
    Multiset.inj_on_of_nodup_map distinct j (listed stored live) j' (listed stored' live') same
  rw [← coherent.keyed stored, ← coherent.keyed stored', one]

end Board

namespace Trigger

theorem noStages_ne_unknownMaterial (q pipeline material : String) :
    noStages q ≠ unknownMaterial pipeline material := by
  intro h
  have text := congrArg String.toList (ScheduleOutcome.invalid.inj h)
  have first := congrArg List.head? text
  simp [toString] at first

theorem ne_noStages_of_decide {t : Trigger} {p : Pipeline} {permissions : Permissions}
    {latest : Option BuildCause} {now : Timestamp} {outcome : ScheduleOutcome} {stage : Stage}
    (h : t.decide p permissions latest now = .error outcome) (first : p.firstStage? = some stage)
    (q : String) : outcome ≠ noStages q := by
  rcases of_decide_eq_error h with refused | ⟨m, rfl⟩ | rfl | ⟨empty, -⟩
  · rcases of_refusal? refused with ⟨empty, -⟩ | ⟨_, rfl⟩
    · rw [first] at empty
      cases empty
    · simp [noStages]
  · exact (noStages_ne_unknownMaterial q t.pipeline m).symm
  · simp [noStages]
  · rw [first] at empty
    cases empty

end Trigger

namespace Dispatcher

theorem named_session {config : Config} (usable : config.Usable) (payload : PayloadStore)
    (steps : List (Step Call)) (few : (session config payload steps).state.board.Few) :
    (session config payload steps).state.board.Named := by
  induction steps using List.reverseRecOn with
  | nil => exact Board.named_empty
  | append_singleton steps x ih =>
    have tended := (tended_session config payload steps).board
    have idle := idle_session config payload steps
    rw [session_concat] at few ⊢
    obtain ⟨call, now⟩ := x
    change (Dispatcher.perform _ now call).2.board.Few at few
    change (Dispatcher.perform _ now call).2.board.Named
    rcases launches_or_tends idle now call with ⟨t, p, stage, c, b', rfl, launches, hp⟩ |
      ⟨-, tends⟩
    · rw [hp, board_setBoard] at few ⊢
      have launched : Board.Launched _ c stage now b' := launches.launched
      have before := launched.size.trans_lt few
      have found : config.pipeline? t.pipeline = some p := idle.configured ▸ launches.found
      have sound := (usable.usable p (Config.of_pipeline? found).1).firstStage launches.first
      exact launched.named sound (tended.numbered before) few (ih before)
    · refine tends.keeps (P := fun b => b.Few → b.Named) tended ?_ ih few
      intro k k' c a unasked _ numbered e named few'
      have before := e.size_le.trans_lt few'
      exact e.named unasked (numbered before) (named before)

/--
In the sessions of a configuration that was read, no two jobs have the same names but for those that
were retired, as long as there are `Few` jobs. A trigger that is answered `scheduled` has made a job
at least, and none is told that its pipeline has no stages.
-/
theorem live_names_unique {text : String} {config : Config}
    (parsed : Config.parse text = .ok config) (payload : PayloadStore) (steps : List (Step Call)) :
    let d := (session config payload steps).state
    (d.board.Few → ∀ id id' j j', d.board.get? id = some j → d.board.get? id' = some j' →
      j.state ≠ .rescheduled → j'.state ≠ .rescheduled → j.request.names = j'.request.names →
      id = id') ∧
    ∀ t now,
      (∀ pipeline label ids, (d.trigger t now).1 = .scheduled pipeline label ids →
        ids ≠ [] ∧ ∀ id ∈ ids, ((d.trigger t now).2.board.Few → d.board.get? id = none) ∧
          ∃ j, (d.trigger t now).2.board.get? id = some j) ∧
      ∀ q, (d.trigger t now).1 ≠ Trigger.noStages q := by
  intro d
  have usable := Config.usable_of_parse parsed
  have tended := (tended_session config payload steps).board
  have idle : d.scheduler.Idle config := idle_session config payload steps
  constructor
  · intro few id id' j j' stored stored' live live' same
    exact (named_session usable payload steps few).eq_of_names tended.coherent stored stored' live
      live' same
  intro t now
  rcases trigger_cases idle t now with ⟨-, ht⟩ | ⟨p, outcome, found, decided, ht⟩ |
    ⟨p, stage, c, b', launches, ht⟩
  · rw [ht]
    exact ⟨nofun, nofun⟩
  · have refused := Trigger.not_scheduled_of_decide decided
    obtain ⟨stage, first⟩ := (usable.usable p (Config.of_pipeline? found).1).exists_firstStage
    rw [ht]
    refine ⟨?_, Trigger.ne_noStages_of_decide decided first⟩
    rintro pipeline label ids rfl
    cases refused
  · have launched : d.board.Launched c stage now b' := launches.launched
    have found : config.pipeline? t.pipeline = some p := idle.configured ▸ launches.found
    have sound := (usable.usable p (Config.of_pipeline? found).1).firstStage launches.first
    rw [ht]
    refine ⟨?_, nofun⟩
    intro pipeline label ids h
    cases h
    constructor
    · intro none_made
      have length := congrArg List.length launched.numbers
      rw [none_made, numbersFrom, List.length_map, List.length_range] at length
      exact sound.jobs (List.length_eq_zero_iff.1 length.symm)
    · intro id made
      obtain ⟨template, -, stored⟩ := launched.listed id made
      refine ⟨fun few => ?_, _, stored⟩
      exact launched.free (tended.numbered (launched.size.trans_lt few)) few id made

theorem live_names_unique_guarded :
    let steps : List (Step Call) := [⟨.trigger (.manual "site" "alice" .none), 5⟩,
      ⟨.rescheduleJob 1, 6⟩, ⟨.trigger (.material "site" [⟨"repo", "r2"⟩]), 7⟩]
    let d := (session guarded (.new none none) steps).state
    (∃ j, d.board.get? 2 = some j ∧ j.request.names = ("site", "1", "build", "compile")) ∧
      ∀ id j, d.board.get? id = some j → j.state ≠ .rescheduled →
        j.request.names = ("site", "1", "build", "compile") → id = 2 := by
  intro steps d
  obtain ⟨unique, -⟩ := live_names_unique parse_guardedText (.new none none) steps
  have few : d.board.Few := by
    change 3 < 2 ^ 64 - 1
    decide
  have named : ∃ j, d.board.get? 2 = some j ∧ j.state ≠ .rescheduled ∧
      j.request.names = ("site", "1", "build", "compile") := ⟨_, rfl, by decide, by decide +kernel⟩
  obtain ⟨copy, stored, live, names⟩ := named
  refine ⟨⟨copy, stored, names⟩, fun id j stored' live' names' => ?_⟩
  exact unique few id 2 j copy stored' stored live' live (names'.trans names.symm)

end Dispatcher

end BuildDispatch
