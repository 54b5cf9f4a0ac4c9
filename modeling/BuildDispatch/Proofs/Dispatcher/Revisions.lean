import BuildDispatch.Proofs.Dispatcher.Trigger
import BuildDispatch.Proofs.Scheduler.Revisions

/-!
Changes of materials in a session. The runs so far make a map of the revisions of a pipeline
(`Dispatcher.revisionMap?`), which is that of the latest cause, and a change of materials is a run
just if it changes that map (`Dispatcher.scheduled_iff_changed`).
-/
namespace BuildDispatch.Dispatcher

open Revision (noted Lists)

/-- What a call makes of the revisions of a pipeline, if it is answered with a run of it. -/
def revised (pipeline : String) (former : Option RevisionMap) (e : Entry Call Reply) :
    Option RevisionMap :=
  match e.call with
  | .trigger t => if (labelOf? pipeline e).isSome then some (t.revise former) else former
  | _ => former

/-- The revisions of a pipeline after its runs so far, if there were any. -/
def revisionMap? (pipeline : String) (log : List (Entry Call Reply)) : Option RevisionMap :=
  log.foldl (revised pipeline) none

theorem revisionMap?_call (pipeline : String) (s : Session Dispatcher) (x : Step Call) :
    revisionMap? pipeline (s.call x).log = revised pipeline (revisionMap? pipeline s.log)
      ⟨x, (s.state.perform x.now x.call).1⟩ := by
  unfold revisionMap?
  rw [Session.log_call, List.foldl_append]
  rfl

theorem revised_of_unlabelled {pipeline : String} {e : Entry Call Reply}
    (unlabelled : labelOf? pipeline e = none) (former : Option RevisionMap) :
    revised pipeline former e = former := by
  unfold revised
  rw [unlabelled]
  split <;> rfl

/-- As long as the counter has not run over, the latest cause keeps the map of its pipeline. -/
def Revised (pipeline : String) (s : Session Dispatcher) : Prop :=
  (labels pipeline s.log).length < 2 ^ 64 →
    Trigger.Keeps (s.state.board.repository.latest? pipeline) (revisionMap? pipeline s.log)

theorem Revised.call {pipeline : String} {s : Session Dispatcher} {config : Config}
    (h : Revised pipeline s) (counted : Counted s) (tended : Tended s)
    (idle : s.state.scheduler.Idle config) (x : Step Call) : Revised pipeline (s.call x) := by
  obtain ⟨call, now⟩ := x
  intro few
  rw [labels_call, List.length_append] at few
  have kept := h (by omega)
  rw [revisionMap?_call]
  change Trigger.Keeps ((s.state.perform now call).2.board.repository.latest? pipeline) _
  rcases launches_or_tends idle now call with ⟨t, p, stage, c, b', rfl, launches, hp⟩ |
    ⟨unlabelled, tends⟩
  · have launched : s.state.board.Launched c stage now b' := launches.launched
    have named : c.pipeline = t.pipeline := by
      rw [launches.cause]
      exact (Config.of_pipeline? launches.found).2
    dsimp only at few ⊢
    rw [hp] at few ⊢
    change Trigger.Keeps (b'.repository.latest? pipeline) _
    by_cases own : pipeline = c.pipeline
    · have label : labelOf? pipeline ⟨⟨.trigger t, now⟩,
          .scheduled (.scheduled c.pipeline c.label c.jobs)⟩ = some c.label := if_pos own.symm
      rw [label, Option.toList_some, List.length_singleton] at few
      have count := counted pipeline (by omega)
      have stored : b'.repository.latest? pipeline = some c := by
        rw [own] at count few ⊢
        exact launched.latest (launched.counter_ne_zero (by omega))
      have revisions : c.revisions =
          (t.cause p (s.state.scheduler.latest? t.pipeline) now).revisions := by
        rw [launches.cause]
      unfold revised
      dsimp only
      rw [stored, label, Option.isSome_some, if_pos rfl]
      refine .some ?_
      rw [revisions, ← named, ← own]
      exact Trigger.lists_cause kept t p now
    · have other : labelOf? pipeline ⟨⟨.trigger t, now⟩,
          .scheduled (.scheduled c.pipeline c.label c.jobs)⟩ = none := if_neg (Ne.symm own)
      rw [revised_of_unlabelled other, launched.others pipeline own]
      exact kept
  · have same : (s.state.perform now call).2.board.repository.latest? pipeline =
        s.state.board.repository.latest? pipeline := tends.keeps
      (P := fun b => b.repository.latest? pipeline = s.state.board.repository.latest? pipeline)
      tended.board (fun _ _ _ e before => by
        rw [← before]
        unfold Repository.latest?
        rw [e.latestCauses_eq]) rfl
    rw [revised_of_unlabelled (unlabelled pipeline), same]
    exact kept

theorem revised_session (config : Config) (payload : PayloadStore) (steps : List (Step Call))
    (pipeline : String) : Revised pipeline (session config payload steps) := by
  induction steps using List.reverseRecOn with
  | nil => exact fun _ => .none
  | append_singleton steps x ih =>
    rw [session_concat]
    exact ih.call (counted_session config payload steps) (tended_session config payload steps)
      (idle_session config payload steps) x

/-- A change of materials of which all are known is answered by what it makes of the map. -/
theorem trigger_material {d : Dispatcher} {config : Config} (idle : d.scheduler.Idle config)
    (valid : config.fault? = none) {pipeline : String} {p : Pipeline}
    (found : config.pipeline? pipeline = some p) {revisions : List Revision}
    (known : ∀ r ∈ revisions, p.hasMaterial r.material = true) {map : Option RevisionMap}
    (kept : Trigger.Keeps (d.board.repository.latest? pipeline) map) (now : Timestamp) :
    (map = some (noted revisions) →
      (d.trigger (.material pipeline revisions) now).1 = .noChange pipeline) ∧
    (map ≠ some (noted revisions) →
      ∃ label jobs, (d.trigger (.material pipeline revisions) now).1 =
        .scheduled pipeline label jobs) ∧
    ∀ others, noted others = noted revisions →
      d.trigger (.material pipeline others) now = d.trigger (.material pipeline revisions) now := by
  let t := Trigger.material pipeline revisions
  obtain ⟨listed, named⟩ := Config.of_pipeline? found
  have usable := (Config.fault?_eq_none_iff.1 valid).usable p listed
  obtain ⟨stage, rest, stages⟩ := List.exists_cons_of_ne_nil usable.stages
  have first : p.firstStage? = some stage := by
    rw [Pipeline.firstStage?, stages]
    rfl
  have free : d.scheduler.inFlight.contains pipeline = false := by
    rw [idle.none]
    rfl
  have found' : d.scheduler.config.pipeline? pipeline = some p := idle.configured ▸ found
  have answer : (d.trigger t now).1 = _ :=
    d.scheduler.trigger_material_fst now free found' known first
  have change : t.isChange (d.scheduler.latest? pipeline) = true ↔ map ≠ some (noted revisions) :=
    Trigger.isChange_material kept pipeline revisions
  refine ⟨fun same => ?_, fun differs => ?_, fun others same => ?_⟩
  · rw [answer, if_neg fun h => change.1 h same]
  · rw [answer, if_pos (change.2 differs), named]
    exact ⟨_, _, rfl⟩
  · have decided : (Trigger.material pipeline others).decide p d.scheduler.permissions
        (d.scheduler.latest? pipeline) now =
          t.decide p d.scheduler.permissions (d.scheduler.latest? pipeline) now :=
      Trigger.decide_congr same known first _ _ now
    unfold trigger
    rw [d.scheduler.trigger_congr now (t := .material pipeline others) (u := t) rfl free found'
      decided]

/--
The latest cause of a pipeline keeps the map of its revisions, in the order of materials and each
once. A change of materials that are all known leads to a run just if the map is another than that
of the reported revisions, whose order and repetitions do not matter beyond that, and then that is
the map. A manual run changes some of the map, and no other call does anything to it.
-/
theorem scheduled_iff_changed (config : Config) (valid : config.fault? = none)
    (payload : PayloadStore) (steps : List (Step Call)) (pipeline : String)
    (few : (labels pipeline (session config payload steps).log).length < 2 ^ 64) :
    let s := session config payload steps
    let map := revisionMap? pipeline s.log
    Option.Rel (fun c map => Lists c.revisions map)
      (s.state.board.repository.latest? pipeline) map ∧
    (∀ p revisions now, config.pipeline? pipeline = some p →
      (∀ r ∈ revisions, p.hasMaterial r.material = true) →
      let t := Trigger.material pipeline revisions
      let answer := (s.state.trigger t now).1
      (answer = .noChange pipeline ↔ map = some (noted revisions)) ∧
      (map ≠ some (noted revisions) → ∃ label jobs, answer = .scheduled pipeline label jobs) ∧
      revisionMap? pipeline (s.call ⟨.trigger t, now⟩).log = some (noted revisions) ∧
      ∀ others, noted others = noted revisions →
        s.state.trigger (.material pipeline others) now = s.state.trigger t now) ∧
    (∀ user options now label jobs, let t := Trigger.manual pipeline user options
      (s.state.trigger t now).1 = .scheduled pipeline label jobs →
        revisionMap? pipeline (s.call ⟨.trigger t, now⟩).log = some fun material =>
          (options.revisions.get? material).or (map.bind fun former => former material)) ∧
    ∀ x, labelOf? pipeline ⟨x, (s.state.perform x.now x.call).1⟩ = none →
      revisionMap? pipeline (s.call x).log = map := by
  intro s map
  have idle : s.state.scheduler.Idle config := idle_session config payload steps
  have kept := revised_session config payload steps pipeline few
  -- The answer to a trigger decides whether the map changes.
  have next (t : Trigger) (now : Timestamp) (label : String) (jobs : List BuildId)
      (scheduled : (s.state.trigger t now).1 = .scheduled pipeline label jobs) :
      revisionMap? pipeline (s.call ⟨.trigger t, now⟩).log = some (t.revise map) := by
    rw [revisionMap?_call]
    change (if (labelOf? pipeline ⟨⟨.trigger t, now⟩,
      .scheduled (s.state.trigger t now).1⟩).isSome then _ else _) = _
    rw [scheduled]
    exact if_pos (by simp [labelOf?])
  have still (x : Step Call) (unlabelled : labelOf? pipeline
      ⟨x, (s.state.perform x.now x.call).1⟩ = none) :
      revisionMap? pipeline (s.call x).log = map := by
    rw [revisionMap?_call]
    exact revised_of_unlabelled unlabelled map
  refine ⟨kept, fun p revisions now found known => ?_, fun user options now label jobs => ?_, still⟩
  · intro t answer
    obtain ⟨unchanged, changed, alike⟩ := trigger_material idle valid found known kept now
    refine ⟨⟨fun none => ?_, unchanged⟩, changed, ?_, alike⟩
    · by_contra differs
      obtain ⟨label, jobs, scheduled⟩ := changed differs
      cases none.symm.trans scheduled
    · by_cases same : map = some (noted revisions)
      · rw [still ⟨.trigger t, now⟩, same]
        change labelOf? pipeline ⟨⟨.trigger t, now⟩, .scheduled (s.state.trigger t now).1⟩ = none
        rw [unchanged same]
        rfl
      · obtain ⟨label, jobs, scheduled⟩ := changed same
        exact next t now label jobs scheduled
  · intro t scheduled
    exact next t now label jobs scheduled

def press : Config :=
  ⟨true, .unrestricted, [⟨"site", [], [⟨"docs", "/docs"⟩, ⟨"repo", "/repo"⟩], ∅,
    [⟨"build", [⟨"compile", [], []⟩]⟩]⟩]⟩

/-- A change that mentions one material twice, and a run at another revision of the other. -/
def pinned : List (Step Call) :=
  [⟨.trigger (.material "site" [⟨"repo", "r1"⟩, ⟨"docs", "d1"⟩, ⟨"repo", "r2"⟩]), 5⟩,
    ⟨.trigger (.manual "site" "ann" ⟨.ofList [("docs", "d2")], ∅, ∅⟩), 6⟩]

theorem scheduled_iff_changed_pinned :
    let s := session press (.new none none) pinned
    press.fault? = none ∧ (labels "site" s.log).length < 2 ^ 64 ∧
      revisionMap? "site" s.log = some (noted [⟨"docs", "d2"⟩, ⟨"repo", "r2"⟩]) ∧
      (s.state.trigger (.material "site" [⟨"docs", "d2"⟩, ⟨"repo", "r2"⟩]) 7).1 = .noChange "site" ∧
      ∃ label jobs, (s.state.trigger (.material "site" [⟨"docs", "d1"⟩, ⟨"repo", "r2"⟩]) 7).1 =
        .scheduled "site" label jobs := by
  intro s
  have valid : press.fault? = none := by decide
  have few : (labels "site" s.log).length < 2 ^ 64 := by
    have two : (labels "site" s.log).length = 2 := by decide
    rw [two]
    decide
  obtain ⟨-, material, -⟩ :=
    scheduled_iff_changed press valid (.new none none) pinned "site" few
  have none : (s.state.trigger (.material "site" [⟨"docs", "d2"⟩, ⟨"repo", "r2"⟩]) 7).1 =
      .noChange "site" := by decide
  have map := (material _ [⟨"docs", "d2"⟩, ⟨"repo", "r2"⟩] 7 rfl (by decide)).1.1 none
  obtain ⟨-, changed, -⟩ := material _ [⟨"docs", "d1"⟩, ⟨"repo", "r2"⟩] 7 rfl (by decide)
  refine ⟨valid, few, map, none, changed fun same => ?_⟩
  have docs := congrFun (Option.some.inj (map.symm.trans same)) "docs"
  revert docs
  decide

end BuildDispatch.Dispatcher
