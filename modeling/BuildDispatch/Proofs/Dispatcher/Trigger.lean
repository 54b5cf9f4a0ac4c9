import BuildDispatch.Proofs.Dispatcher.OneJob
import BuildDispatch.Proofs.Scheduler.Run

/-!
Triggers in a session. A trigger that is answered `scheduled` has made all jobs of a stage and saved
their cause, and any other has done nothing (`Dispatcher.trigger_all_or_nothing`).
-/
namespace BuildDispatch

namespace Board

def performAll (b : Board) (now : Timestamp) (calls : List Call) : Board :=
  calls.foldl (fun b c => (b.perform now c).2) b

theorem performAll_keeps {P : Board → Prop} {b : Board} {now : Timestamp} {calls : List Call}
    (unasked : ∀ c ∈ calls, ∀ request, c ≠ .create request) (coherent : b.Coherent)
    (numbered : b.Few → b.Numbered)
    (keeps : ∀ {k k' : Board} {c : Call} {a : Answer}, (∀ request, c ≠ .create request) →
      k.Coherent → (k.Few → k.Numbered) → k.Effect now c a k' → P k → P k')
    (start : P b) : P (b.performAll now calls) := by
  induction calls generalizing b with
  | nil => exact start
  | cons c rest ih =>
    obtain ⟨first, others⟩ := List.forall_mem_cons.1 unasked
    have e := coherent.perform_effect now c
    exact ih others (e.coherent coherent) (e.numbered numbered)
      (keeps first coherent numbered e start)

end Board

namespace Dispatcher

/-- What a call that triggers nothing asks of the board, if it comes to that. -/
def Call.onBoard : Call → List Board.Call
  | .getWork info => [.releaseAbandoned info.uuid, .assignNext info]
  | .report info job r => [.report info.uuid job.buildId r]
  | .cancelJob id => [.cancel id]
  | .rescheduleJob id => [.reschedule id]
  | _ => []

theorem Call.not_create_of_onBoard (c : Call) :
    ∀ k ∈ c.onBoard, ∀ request, k ≠ .create request := by
  rintro _ hk request rfl
  cases c <;> simp [onBoard] at hk

section Scheduler

variable {α : Type} (d : Dispatcher)

@[simp] theorem scheduler_ofRoster (x : Except RosterError α × Roster) :
    (d.ofRoster x).2.scheduler = d.scheduler := by
  obtain ⟨a, r⟩ := x
  cases a <;> rfl

@[simp] theorem scheduler_ofBoard (x : Except JobError α × Board) :
    (d.ofBoard x).2.scheduler = { d.scheduler with board := x.2 } := by
  obtain ⟨a, b⟩ := x
  cases a <;> rfl

/-- What a call may do that sets no run off: it leaves the scheduler alone, apart from the board. -/
inductive Tends (d : Dispatcher) (now : Timestamp) (c : Call) (d' : Dispatcher) : Prop where
  | still (same : d'.scheduler = d.scheduler)
  | called (after : d'.scheduler =
      { d.scheduler with board := d.board.performAll now c.onBoard })

theorem tends_nextWork (info : Snapshot) (now : Timestamp) :
    d.Tends now (.getWork info) (d.nextWork info now).2 := by
  by_cases busy : info.status ≠ .idle ∨ info.currentJob.isSome = true
  · rw [nextWork_of_busy d now busy]
    exact .still rfl
  · obtain ⟨idle, free⟩ : info.status = .idle ∧ info.currentJob = none := by simpa using busy
    rw [nextWork_of_idle d now idle free]
    exact .called rfl

theorem tends_perform (now : Timestamp) {c : Call} (untriggered : ∀ t, c ≠ .trigger t) :
    d.Tends now c (d.perform now c).2 := by
  cases c with
  | trigger t => exact absurd rfl (untriggered t)
  | ping info => exact .still (scheduler_ofRoster d (d.roster.ping d.board info now))
  | approveAgent uuid => exact .still (scheduler_ofRoster d (d.roster.approve uuid now))
  | disableAgent uuid => exact .still (scheduler_ofRoster d (d.roster.disable uuid now))
  | getCookie => exact .still rfl
  | sweepLostContact => exact .still rfl
  | cancelJob id => exact .called (scheduler_ofBoard d (d.board.cancel id now))
  | rescheduleJob id => exact .called (scheduler_ofBoard d (d.board.reschedule id now))
  | report info job r =>
    change d.Tends now _ (d.hear info job now r).2
    rw [hear_eq]
    unfold report
    rcases d.roster.observe info now with ⟨_ | s, roster⟩
    · exact .still rfl
    · exact .called
        (scheduler_ofBoard { d with roster } (d.board.hear info.uuid job.buildId now r))
  | getWork info =>
    change d.Tends now _ (d.getWork info now).2
    unfold getWork
    rcases d.roster.observe info now with ⟨_ | s, roster⟩
    · exact .still rfl
    · have next : d.Tends now (.getWork info) ({ d with roster }.nextWork info now).2 := by
        cases tends_nextWork { d with roster } info now with
        | still same => exact .still same
        | called after => exact .called after
      cases s with
      | pending => exact .still rfl
      | disabled => exact .still rfl
      | _ => exact next

end Scheduler

end Dispatcher

/-- A scheduler as it was configured, with no trigger in flight. -/
structure Scheduler.Idle (s : Scheduler) (config : Config) : Prop where
  configured : s.config = config
  permitted : s.permissions = .ofConfig config
  none : s.inFlight = ∅

namespace Dispatcher

/-- A trigger of an idle scheduler is turned away or refused, or sets a run off. -/
theorem trigger_cases {d : Dispatcher} {config : Config} (idle : d.scheduler.Idle config)
    (t : Trigger) (now : Timestamp) :
    (config.pipeline? t.pipeline = none ∧ d.trigger t now = (.unknownPipeline t.pipeline, d)) ∨
    (∃ p outcome, config.pipeline? t.pipeline = some p ∧
      t.decide p (.ofConfig config) (d.scheduler.latest? t.pipeline) now = .error outcome ∧
      d.trigger t now = (outcome, d)) ∨
    ∃ p stage c b', d.scheduler.Launches t now p stage c b' ∧
      d.trigger t now = (.scheduled c.pipeline c.label c.jobs, d.setBoard b') := by
  have free : d.scheduler.inFlight.contains t.pipeline = false := by
    rw [idle.none]
    rfl
  unfold trigger
  rw [← idle.permitted, ← idle.configured]
  rcases d.scheduler.trigger_cases now free with ⟨unknown, ht⟩ | ⟨p, outcome, found, refused, ht⟩ |
    ⟨p, stage, c, b', launches, ht⟩
  · exact .inl ⟨unknown, by rw [ht]⟩
  · exact .inr (.inl ⟨p, outcome, found, refused, by rw [ht]⟩)
  · exact .inr (.inr ⟨p, stage, c, b', launches, by rw [ht]; rfl⟩)

def labelOf? (pipeline : String) (e : Entry Call Reply) : Option String :=
  match e.answer with
  | .scheduled (.scheduled p label _) => if p = pipeline then some label else none
  | _ => none

def labels (pipeline : String) (log : List (Entry Call Reply)) : List String :=
  log.filterMap (labelOf? pipeline)

theorem labels_call (pipeline : String) (s : Session Dispatcher) (x : Step Call) :
    labels pipeline (s.call x).log = labels pipeline s.log ++
      (labelOf? pipeline ⟨x, (s.state.perform x.now x.call).1⟩).toList :=
  s.filterMap_log_call x (labelOf? pipeline)

theorem labelOf?_of_not_scheduled (pipeline : String) (x : Step Call) {outcome : ScheduleOutcome}
    (h : outcome.isScheduled = false) : labelOf? pipeline ⟨x, .scheduled outcome⟩ = none := by
  cases outcome with
  | scheduled => cases h
  | _ => rfl

/-- A call on an idle scheduler sets a run off, or its answer has no label and it makes no job. -/
theorem launches_or_tends {d : Dispatcher} {config : Config} (idle : d.scheduler.Idle config)
    (now : Timestamp) (call : Call) :
    (∃ t p stage c b', call = .trigger t ∧ d.scheduler.Launches t now p stage c b' ∧
      d.perform now call = (.scheduled (.scheduled c.pipeline c.label c.jobs), d.setBoard b')) ∨
    (∀ q, labelOf? q ⟨⟨call, now⟩, (d.perform now call).1⟩ = none) ∧
      d.Tends now call (d.perform now call).2 := by
  by_cases triggered : ∃ t, call = .trigger t
  · obtain ⟨t, rfl⟩ := triggered
    have answer : d.perform now (.trigger t) =
        (.scheduled (d.trigger t now).1, (d.trigger t now).2) := rfl
    rw [answer]
    rcases trigger_cases idle t now with ⟨-, ht⟩ | ⟨p, outcome, -, refused, ht⟩ |
      ⟨p, stage, c, b', launches, ht⟩
    · rw [ht]
      exact .inr ⟨fun q => labelOf?_of_not_scheduled q _ rfl, .still rfl⟩
    · rw [ht]
      have unscheduled := Trigger.not_scheduled_of_decide refused
      exact .inr ⟨fun q => labelOf?_of_not_scheduled q _ unscheduled, .still rfl⟩
    · rw [ht]
      exact .inl ⟨t, p, stage, c, b', rfl, launches, rfl⟩
  · have untriggered : ∀ t, call ≠ .trigger t := fun t hc => triggered ⟨t, hc⟩
    refine .inr ⟨fun q => ?_, d.tends_perform now untriggered⟩
    cases call with
    | trigger t => exact absurd rfl (untriggered t)
    | _ => rfl

theorem idle_perform {d : Dispatcher} {config : Config} (idle : d.scheduler.Idle config)
    (now : Timestamp) (c : Call) : (d.perform now c).2.scheduler.Idle config := by
  have same (b : Board) : { d.scheduler with board := b }.Idle config :=
    ⟨idle.configured, idle.permitted, idle.none⟩
  rcases launches_or_tends idle now c with ⟨_, _, _, _, b', -, -, hp⟩ | ⟨-, still | after⟩
  · rw [hp]
    exact same b'
  · rw [still]
    exact idle
  · rw [after]
    exact same _

theorem idle_session (config : Config) (payload : PayloadStore) (steps : List (Step Call)) :
    (session config payload steps).state.scheduler.Idle config :=
  Session.run_keeps (P := fun s : Session Dispatcher => s.state.scheduler.Idle config)
    (fun _ x idle => idle_perform idle x.now x.call) ⟨rfl, rfl, rfl⟩ steps

/-- What every call on a board keeps that asks for no job, a call keeps that sets no run off. -/
theorem Tends.keeps {P : Board → Prop} {d d' : Dispatcher} {now : Timestamp} {c : Call}
    (h : d.Tends now c d') (tended : d.board.Tended)
    (keeps : ∀ {b b' : Board} {c : Board.Call} {a : Board.Answer}, (∀ request, c ≠ .create request) →
      b.Coherent → (b.Few → b.Numbered) → b.Effect now c a b' → P b → P b')
    (start : P d.board) : P d'.board := by
  cases h with
  | still same =>
    have board : d'.board = d.board := congrArg Scheduler.board same
    rwa [board]
  | called after =>
    have board : d'.board = d.board.performAll now c.onBoard := congrArg Scheduler.board after
    rw [board]
    exact Board.performAll_keeps c.not_create_of_onBoard tended.coherent tended.numbered keeps start

/-- As long as it has not run over, the counter of a pipeline is the number of its runs. -/
def Counted (s : Session Dispatcher) : Prop :=
  ∀ q, (labels q s.log).length < 2 ^ 64 →
    (s.state.board.repository.counter q).toNat = (labels q s.log).length

theorem Counted.call {s : Session Dispatcher} {config : Config} (h : Counted s)
    (tended : Tended s) (idle : s.state.scheduler.Idle config) (x : Step Call) :
    Counted (s.call x) := by
  obtain ⟨call, now⟩ := x
  intro q few
  have few' : (labels q s.log).length < 2 ^ 64 := by
    rw [labels_call, List.length_append] at few
    omega
  have before := h q few'
  rw [labels_call] at few ⊢
  change ((s.state.perform now call).2.board.repository.counter q).toNat = _
  rcases launches_or_tends idle now call with ⟨t, p, stage, c, b', rfl, launches, hp⟩ |
    ⟨unlabelled, tends⟩
  · have launched : s.state.board.Launched c stage now b' := launches.launched
    rw [hp] at few ⊢
    change (b'.repository.counter q).toNat = _
    by_cases hq : q = c.pipeline
    · subst hq
      have grown : (labelOf? c.pipeline ⟨⟨.trigger t, now⟩,
          .scheduled (.scheduled c.pipeline c.label c.jobs)⟩).toList = [c.label] := by
        simp [labelOf?]
      rw [grown, List.length_append, List.length_singleton] at few ⊢
      rw [← before] at few
      rw [launched.counter_self (launched.counter_ne_zero few), launched.toNat_counter few, before]
    · have kept : labelOf? q ⟨⟨.trigger t, now⟩,
          .scheduled (.scheduled c.pipeline c.label c.jobs)⟩ = none := by
        simp [labelOf?, Ne.symm hq]
      rw [kept, launched.counter_of_ne hq]
      simpa using before
  · have same : (s.state.perform now call).2.board.repository.counter q =
        s.state.board.repository.counter q := tends.keeps
      (P := fun b => b.repository.counter q = s.state.board.repository.counter q)
      tended.board (fun _ _ _ e h => (e.counter_eq q).trans h) rfl
    rw [unlabelled, same]
    simpa using before

theorem counted_session (config : Config) (payload : PayloadStore) (steps : List (Step Call)) :
    Counted (session config payload steps) := by
  induction steps using List.reverseRecOn with
  | nil => exact fun q _ => rfl
  | append_singleton steps x ih =>
    rw [session_concat]
    exact ih.call (tended_session config payload steps) (idle_session config payload steps) x

end Dispatcher

/-- A job that waits to be run as a template says. -/
structure Job.MadeFrom (j : Job) (template : JobTemplate) (pipeline label stage : String)
    (id : BuildId) (environment : List Variable) : Prop where
  waits : j.state = .scheduled
  unassigned : j.agent = none
  named : j.ref = ⟨pipeline, label, stage, template.name, id⟩
  resources : ∀ tag, j.plan.resources.contains tag = true ↔ tag ∈ template.resources
  tasks : j.plan.tasks = template.tasks
  environment : j.plan.environment = environment
  artifacts : j.plan.artifactLocation =
    pipeline ++ "/" ++ label ++ "/" ++ stage ++ "/" ++ template.name

theorem Job.madeFrom_instantiate (template : JobTemplate) (c : BuildCause) (stage : String)
    (id : BuildId) (now : Timestamp) : (template.instantiate c stage id now).MadeFrom template
      c.pipeline c.label stage id c.environment where
  waits := rfl
  unassigned := rfl
  named := rfl
  resources _ := Table.contains_ofKeys
  tasks := rfl
  environment := rfl
  artifacts := by
    rfl

namespace Dispatcher

/--
A trigger that is answered `scheduled` has made one job of every template of the first stage, in
their order and under the next numbers, and has saved their cause, which is now the latest of the
pipeline. It changes no other job and no other pipeline. A trigger with any other answer changes
nothing. Numbers stay apart as long as there are `Few` jobs, and labels as long as there are few
runs.
-/
theorem trigger_all_or_nothing (config : Config) (payload : PayloadStore)
    (steps : List (Step Call)) (t : Trigger) (now : Timestamp) :
    let s := session config payload steps
    let d := s.state
    let d' := (d.trigger t now).2
    (∀ pipeline label ids, (d.trigger t now).1 = .scheduled pipeline label ids →
      ∃ p stage c, config.pipeline? pipeline = some p ∧ p.firstStage? = some stage ∧
        c = { t.cause p (d.board.repository.latest? pipeline) now with jobs := ids } ∧
        c.pipeline = pipeline ∧ c.label = label ∧
        ids = numbersFrom d.board.nextId stage.jobs.length ∧
        d'.board.nextId = d.board.nextId + UInt64.ofNat stage.jobs.length ∧
        (d'.board.Few → ids.Nodup ∧
          List.Forall₂ (fun id template => d.board.get? id = none ∧ ∃ j,
              d'.board.get? id = some j ∧
                j.MadeFrom template pipeline label stage.name id c.environment)
            ids stage.jobs ∧
          ∀ id j, d.board.get? id = some j → d'.board.get? id = some j) ∧
        (∀ id ∉ ids, d'.board.get? id = d.board.get? id) ∧
        ((labels pipeline s.log).length < 2 ^ 64 - 1 →
          d'.board.repository.latest? pipeline = some c) ∧
        ∀ q ≠ pipeline, d'.board.repository.latest? q = d.board.repository.latest? q) ∧
    ((d.trigger t now).1.isScheduled = false → d' = d) := by
  intro s d d'
  have tended : d.board.Tended := (tended_session config payload steps).board
  have idle : d.scheduler.Idle config := idle_session config payload steps
  rcases trigger_cases idle t now with ⟨-, ht⟩ | ⟨p, outcome, -, refused, ht⟩ |
    ⟨p, stage, c, b', launches, ht⟩
  · refine ⟨?_, fun _ => congrArg Prod.snd ht⟩
    intro pipeline label ids h
    rw [ht] at h
    cases h
  · refine ⟨?_, fun _ => congrArg Prod.snd ht⟩
    intro pipeline label ids h
    have hn := Trigger.not_scheduled_of_decide refused
    rw [ht] at h
    change outcome = _ at h
    rw [h] at hn
    cases hn
  · have launched : d.board.Launched c stage now b' := launches.launched
    have after : d'.board = b' := congrArg (fun r => r.2.board) ht
    have found : config.pipeline? t.pipeline = some p := idle.configured ▸ launches.found
    have named : c.pipeline = t.pipeline := by
      rw [launches.cause]
      exact (Config.of_pipeline? found).2
    constructor
    · intro pipeline label ids h
      rw [ht] at h
      cases h
      rw [after]
      have cause : c = { t.cause p (d.board.repository.latest? c.pipeline) now with
          jobs := c.jobs } := by
        rw [named]
        exact launches.cause
      refine ⟨p, stage, c, named ▸ found, launches.first, cause, rfl, rfl, launched.numbers,
        launched.next, ?_, launched.kept, ?_, launched.others⟩
      · intro few
        have numbered := tended.numbered (launched.size.trans_lt few)
        have free := launched.free numbered few
        have made := (List.forall₂_and_left _ _).2 ⟨free, launched.made numbered few⟩
        refine ⟨launched.distinct numbered few, ?_, ?_⟩
        · exact made.imp fun id template h => ⟨h.1, _, h.2, Job.madeFrom_instantiate template c _ id now⟩
        · intro id j stored
          have absent : id ∉ c.jobs := by
            intro hid
            rw [free id hid] at stored
            cases stored
          rw [launched.kept id absent, stored]
      · intro few
        have counted : (d.board.repository.counter c.pipeline).toNat =
            (labels c.pipeline s.log).length :=
          counted_session config payload steps c.pipeline (few.trans (by decide))
        exact launched.latest (launched.counter_ne_zero (by omega))
    · intro h
      rw [ht] at h
      cases h

theorem trigger_all_or_nothing_second :
    let d := (session site (.new none none) [⟨.trigger (.material "site" [⟨"repo", "r1"⟩]), 5⟩]).state
    let run := d.trigger (.material "site" [⟨"repo", "r2"⟩]) 6
    run.1 = .scheduled "site" "2" [2] ∧ d.board.get? 2 = none ∧
      ∃ c, run.2.board.repository.latest? "site" = some c ∧ c.label = "2" ∧ c.jobs = [2] ∧
        ∃ j, run.2.board.get? 2 = some j ∧
          j.MadeFrom ⟨"compile", [], []⟩ "site" "2" "build" 2 c.environment := by
  intro d run
  have answer : run.1 = .scheduled "site" "2" [2] := by decide +kernel
  have few : run.2.board.Few := by
    change 2 < 2 ^ 64 - 1
    decide
  obtain ⟨scheduled, -⟩ := trigger_all_or_nothing site (.new none none)
    [⟨.trigger (.material "site" [⟨"repo", "r1"⟩]), 5⟩] (.material "site" [⟨"repo", "r2"⟩]) 6
  obtain ⟨p, stage, c, found, first, cause, -, label, -, -, made, -, latest, -⟩ :=
    scheduled "site" "2" [2] answer
  cases found
  cases first
  cases (made few).2.1 with
  | cons job _ =>
    obtain ⟨free, j, stored, from_⟩ := job
    exact ⟨answer, free, c, latest (by decide), label, congrArg BuildCause.jobs cause, j, stored,
      from_⟩

end Dispatcher

end BuildDispatch
