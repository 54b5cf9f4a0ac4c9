import BuildDispatch.Proofs.Dispatcher.Authority
import BuildDispatch.Proofs.Dispatcher.Course
import BuildDispatch.Proofs.Scheduler.Variables
import BuildDispatch.Proofs.Worker.Tasks

/-!
The variables that tasks see, from the trigger that a job goes back to, through its copies, up to
the agent that starts its tasks (`Dispatcher.tasks_see_layers`).
-/
namespace BuildDispatch

/-- An agent may start a task of its job with these variables. -/
def Worker.StartsWith (a : Assignment) (environment : List Variable) : Prop :=
  ∃ s m job task next, s.stopped.isSome = true ∧
    Program.Reaches Step ⟨[], s⟩ (execute a) m (.act (.runTask job task environment) next)

theorem Worker.StartsWith.given {a : Assignment} {environment : List Variable}
    (h : StartsWith a environment) : environment = a.plan.environment := by
  obtain ⟨s, m, job, task, next, armed, reached⟩ := h
  have started : Started a m.past job task environment :=
    ((execute_underway armed).reached reached).1
  exact started.given

theorem Worker.startsWith_plan {a : Assignment} (some : a.plan.tasks ≠ []) :
    StartsWith a a.plan.environment := by
  obtain ⟨job, resources, tasks, environment, location⟩ := a
  cases tasks with
  | nil => exact absurd rfl some
  | cons task rest =>
    let At := Program.Reaches Step ⟨[], (WorkerState.start (.fresh ⟨"", "", ""⟩ "")).arm⟩
      (execute ⟨job, ⟨resources, task :: rest, environment, location⟩⟩)
    have looked : At _ _ := .act .start (.note _ .nothing)
    have preparing : At _ _ := .act (b := .ok .accepted) looked (.call _ _ .nothing)
    have prepared : At _ _ := .act (b := true) preparing (.prepareDirectory _ _ .nothing)
    have looked' : At _ _ := .act prepared (.note _ .nothing)
    have building : At _ _ := .act (b := .ok .accepted) looked' (.call _ _ .nothing)
    have asked : At _ _ := .act (b := .ok false) building (.call _ _ .nothing)
    have checked : At _ _ := .act asked (.note _ .nothing)
    exact ⟨_, _, _, _, _, rfl, checked⟩

/-- What is handed out is on the board, with the plan that is handed out. -/
theorem Board.Effect.stored_of_work {b b' : Board} {now : Timestamp} {c : Call} {a : Assignment}
    (e : b.Effect now c (.work (some a)) b') :
    ∃ j, b'.get? a.job.buildId = some j ∧ j.plan = a.plan := by
  cases e with
  | still _ _ _ given => cases given
  | @moved _ j j' stored m =>
    have stored' : ((b.take c j.buildId).commit j').get? j.buildId = some j' := by
      rw [get?_commit, m.buildId_eq, if_pos rfl]
    refine ⟨j', ?_, m.plan_eq.trans ?_⟩
    · cases m
      exact stored'
    · cases m
      rfl
  | replaced _ _ r => cases r

namespace Dispatcher

/-- By this call a job is made again: an operator asks for it, or its agent has given it up. -/
inductive Copies (d : Dispatcher) (x : Step Call) (id copy : BuildId) : Prop where
  | asked (called : x.call = .rescheduleJob id)
    (answered : (d.perform x.now x.call).1 = .rescheduled (.ok (some copy)))
  | givenUp {info : Snapshot} (called : x.call = .getWork info)
    (ran : d.board.Runs info.uuid id) (unused : d.board.get? copy = none)
    (made : ((d.perform x.now x.call).2.board.get? copy).isSome = true)

/-- A job goes back to a trigger of a pipeline that made it, or made a job that it is a copy of. -/
inductive GoesBack (config : Config) (payload : PayloadStore) (t : Trigger) (p : Pipeline) :
    List (Step Call) → BuildId → Prop
  | made {steps : List (Step Call)} {now : Timestamp} {pipeline label : String}
    {ids : List BuildId} {id : BuildId} (found : config.pipeline? t.pipeline = some p)
    (scheduled : ((session config payload steps).state.trigger t now).1 =
      .scheduled pipeline label ids) (listed : id ∈ ids) :
    GoesBack config payload t p (steps ++ [⟨.trigger t, now⟩]) id
  | copied {steps : List (Step Call)} {x : Step Call} {id copy : BuildId}
    (original : GoesBack config payload t p steps id)
    (copies : Copies (session config payload steps).state x id copy) :
    GoesBack config payload t p (steps ++ [x]) copy
  | before {steps : List (Step Call)} {id : BuildId} (x : Step Call)
    (earlier : GoesBack config payload t p steps id) :
    GoesBack config payload t p (steps ++ [x]) id

section Step

variable {d : Dispatcher} {config : Config} (orderly : Orderly config d)
include orderly

/-- The jobs of a run have the variables of their trigger, over the defaults of the pipeline. -/
theorem layered_of_scheduled {t : Trigger} {now : Timestamp} {pipeline label : String}
    {ids : List BuildId} (scheduled : (d.trigger t now).1 = .scheduled pipeline label ids) :
    ∃ p, config.pipeline? t.pipeline = some p ∧ ∀ id ∈ ids, ∃ j,
      (d.trigger t now).2.board.get? id = some j ∧
        Layered t.options p.defaults j.plan.environment := by
  rcases trigger_cases orderly.idle t now with ⟨-, ht⟩ | ⟨p, outcome, -, refused, ht⟩ |
    ⟨p, stage, c, b', launches, ht⟩
  · rw [ht] at scheduled
    cases scheduled
  · have unscheduled := Trigger.not_scheduled_of_decide refused
    rw [ht] at scheduled
    change outcome = _ at scheduled
    rw [scheduled] at unscheduled
    cases unscheduled
  · rw [ht] at scheduled ⊢
    cases scheduled
    refine ⟨p, orderly.idle.configured ▸ launches.found, fun id listed => ?_⟩
    obtain ⟨template, -, stored⟩ := launches.launched.listed id listed
    refine ⟨_, stored, ?_⟩
    change Layered t.options p.defaults c.environment
    rw [launches.cause]
    exact t.layered p (d.scheduler.latest? t.pipeline) now

theorem request_of_copies {x : Step Call} {id copy : BuildId} (copies : Copies d x id copy) :
    ∃ j j', d.board.get? id = some j ∧ (d.perform x.now x.call).2.board.get? copy = some j' ∧
      j'.request = j.request := by
  have coherent := orderly.tended.coherent
  obtain ⟨call, now⟩ := x
  rcases copies with ⟨rfl, answered⟩ | @⟨info, rfl, ran, unused, made⟩
  · have board : (d.perform now (.rescheduleJob id)).2.board = (d.board.reschedule id now).2 :=
      board_ofBoard d _
    have answer : (d.board.reschedule id now).1 = .ok (some copy) :=
      ofBoard_eq_ok_iff.1 (Reply.rescheduled.inj answered)
    have e := coherent.reschedule_effect now id
    rw [answer] at e
    obtain ⟨j, called, stored, -, rfl, replaced⟩ := e.of_rescheduled
    cases called
    refine ⟨j, d.board.copyOf j now, stored, ?_, rfl⟩
    rw [board, replaced, Board.get?_replace, if_pos rfl]
  · obtain ⟨j', stored'⟩ := Option.isSome_iff_exists.1 made
    have tends : d.Tends now (.getWork info) _ := d.tends_perform now (by simp)
    obtain ⟨k, same, stored, kept | ⟨-, running, retires⟩⟩ := tends.source coherent stored'
    · rw [kept, unused] at stored
      cases stored
    · rcases retires with called | ⟨info', called, own⟩
      · cases called
      · cases called
        have one := Board.Held.unique orderly.tended.held ran ⟨k, stored, own, running⟩
        exact ⟨k, j', one ▸ stored, stored', same⟩

/-- A job that a call retires is made again under the next number. -/
theorem copies_of_retires (few : d.board.Few) {x : Step Call} {j j' : Job}
    (stored : d.board.get? j.buildId = some j) (running : j.isTerminal = false)
    (retires : x.call.Retires j)
    (stored' : (d.perform x.now x.call).2.board.get? d.board.nextId = some j') :
    Copies d x j.buildId d.board.nextId := by
  obtain ⟨call, now⟩ := x
  rcases retires with called | ⟨info, called, own⟩
  · cases called
    have answer := congrArg Prod.fst (Board.reschedule_of_running now stored running)
    exact .asked rfl (congrArg Reply.rescheduled (ofBoard_eq_ok_iff.2 answer))
  · have unused := (orderly.tended.numbered few).fresh
    exact .givenUp called ⟨j, stored, own, running⟩ unused (stored' ▸ rfl)

/-- A job keeps what it was made for, as long as there are `Few` jobs. -/
theorem request_kept (x : Step Call) (few : (d.perform x.now x.call).2.board.Few) {id : BuildId}
    {j : Job} (stored : d.board.get? id = some j) :
    ∃ j', (d.perform x.now x.call).2.board.get? id = some j' ∧ j'.request = j.request := by
  obtain ⟨call, now⟩ := x
  rcases launches_or_tends orderly.idle now call with ⟨t, p, stage, c, b', rfl, launches, hp⟩ |
    ⟨-, tends⟩
  · have launched := launches.launched
    have numbered := orderly.tended.numbered ((orderly.size_le now _).trans_lt few)
    rw [hp] at few ⊢
    have absent : id ∉ c.jobs := by
      intro new
      have free : d.board.get? id = none := launched.free numbered few id new
      rw [free] at stored
      cases stored
    exact ⟨j, (launched.kept id absent).trans stored, rfl⟩
  · refine tends.keeps
      (P := fun b => b.Few → ∃ j', b.get? id = some j' ∧ j'.request = j.request)
      orderly.tended ?_ (fun _ => ⟨j, stored, rfl⟩) few
    intro b b' c a _ _ numbered e kept few'
    have few : b.Few := e.size_le.trans_lt few'
    obtain ⟨k, storedk, same⟩ := kept few
    obtain ⟨j', stored', becomes⟩ := e.becomes storedk (e.made?_ne (numbered few) storedk)
    exact ⟨j', stored', becomes.request_eq.trans same⟩

theorem stored_of_handed {now : Timestamp} {c : Call} {a : Assignment}
    (handed : (d.perform now c).1 = .work (.ok (.build a))) :
    ∃ j, (d.perform now c).2.board.get? a.job.buildId = some j ∧ j.plan = a.plan := by
  rcases perform_cases d now c with ⟨info, rfl, answer, board⟩ | ⟨quiet, -⟩
  · have e := orderly.tended.nextAssignment_effect info now
    rw [answer] at handed
    rw [board]
    cases given : (nextAssignment d.board info now).1 with
    | none =>
      rw [given] at handed
      cases handed
    | some a' =>
      rw [given] at handed e
      cases handed
      exact e.stored_of_work
  · exact absurd handed (quiet a)

end Step

section Session

variable {config : Config} {payload : PayloadStore} {steps : List (Step Call)}

theorem few_before {x : Step Call} (few : (session config payload (steps ++ [x])).state.board.Few) :
    (session config payload steps).state.board.Few := by
  rw [session_concat] at few
  exact ((orderly_session config payload steps).size_le x.now x.call).trans_lt few

/-- Every job goes back to some trigger. -/
theorem exists_goesBack (few : (session config payload steps).state.board.Few) {id : BuildId}
    {j : Job} (stored : (session config payload steps).state.board.get? id = some j) :
    ∃ t p, GoesBack config payload t p steps id := by
  induction steps using List.reverseRecOn generalizing id j with
  | nil => cases stored
  | append_singleton steps x ih =>
    have orderly := orderly_session config payload steps
    have earlier := few_before few
    rw [session_concat] at stored
    rcases comes orderly.idle orderly.tended.coherent x stored with ⟨storedk, -⟩ |
      @⟨t, p, _, _, _, _, called, launches, answer, made, -, -⟩ |
      ⟨storedk, running, retires, rfl, -⟩
    · obtain ⟨t, p, back⟩ := ih earlier storedk
      exact ⟨t, p, back.before x⟩
    · obtain ⟨_, now⟩ := x
      cases called
      have found : config.pipeline? t.pipeline = some p := orderly.idle.configured ▸ launches.found
      exact ⟨t, p, .made found answer made⟩
    · obtain ⟨t, p, back⟩ := ih earlier storedk
      exact ⟨t, p, back.copied (copies_of_retires orderly earlier storedk running retires stored)⟩

theorem GoesBack.layered {t : Trigger} {p : Pipeline} {id : BuildId}
    (back : GoesBack config payload t p steps id)
    (few : (session config payload steps).state.board.Few) :
    ∃ j, (session config payload steps).state.board.get? id = some j ∧
      Layered t.options p.defaults j.plan.environment := by
  induction back with
  | @made steps now pipeline label ids id found scheduled listed =>
    obtain ⟨q, found', made⟩ :=
      layered_of_scheduled (orderly_session config payload steps) scheduled
    cases found.symm.trans found'
    rw [session_concat]
    exact made id listed
  | @copied steps x id copy original copies ih =>
    obtain ⟨j, stored, layered⟩ := ih (few_before few)
    obtain ⟨j₀, j', stored₀, stored', same⟩ :=
      request_of_copies (orderly_session config payload steps) copies
    cases stored.symm.trans stored₀
    have plan : j'.plan = j.plan := congrArg JobRequest.plan same
    rw [session_concat]
    exact ⟨j', stored', plan ▸ layered⟩
  | @before steps id x earlier ih =>
    obtain ⟨j, stored, layered⟩ := ih (few_before few)
    rw [session_concat] at few ⊢
    obtain ⟨j', stored', same⟩ :=
      request_kept (orderly_session config payload steps) x few stored
    have plan : j'.plan = j.plan := congrArg JobRequest.plan same
    exact ⟨j', stored', plan ▸ layered⟩

/-- What was handed out is still on the board, with the plan that was handed out. -/
theorem stored_of_logged (few : (session config payload steps).state.board.Few)
    {e : Entry Call Reply} (logged : e ∈ (session config payload steps).log) {a : Assignment}
    (handed : e.answer = .work (.ok (.build a))) :
    ∃ j, (session config payload steps).state.board.get? a.job.buildId = some j ∧
      j.plan = a.plan := by
  induction steps using List.reverseRecOn with
  | nil => cases logged
  | append_singleton steps x ih =>
    have orderly := orderly_session config payload steps
    have earlier := few_before few
    rw [session_concat] at few logged ⊢
    rw [Session.log_call] at logged
    rcases List.mem_append.1 logged with before | now
    · obtain ⟨j, stored, plan⟩ := ih earlier before
      obtain ⟨j', stored', same⟩ := request_kept orderly x few stored
      exact ⟨j', stored', (congrArg JobRequest.plan same).trans plan⟩
    · cases List.mem_singleton.1 now
      exact stored_of_handed orderly handed

end Session

/--
The variables of a job are those of the trigger that it goes back to, layered as `Layered` says, and
its tasks are started with no others. A trigger leaves so layered what it makes, and a copy is made
with the plan of its original. As long as there are `Few` jobs, every job goes back to a trigger,
and keeps its variables until its tasks are started; where that was a change of a material, the
tasks see the defaults of the pipeline over what is inherited.
-/
theorem tasks_see_layers (config : Config) (payload : PayloadStore) (steps : List (Step Call)) :
    let s := session config payload steps
    let d := s.state
    (∀ t now pipeline label ids, (d.trigger t now).1 = .scheduled pipeline label ids →
      ∃ p, config.pipeline? t.pipeline = some p ∧ ∀ id ∈ ids, ∃ j,
        (d.trigger t now).2.board.get? id = some j ∧
          Layered t.options p.defaults j.plan.environment) ∧
    (∀ x id copy, Copies d x id copy → ∃ j j', d.board.get? id = some j ∧
      (d.perform x.now x.call).2.board.get? copy = some j' ∧ j'.plan = j.plan) ∧
    (d.board.Few →
      (∀ id j, d.board.get? id = some j → ∃ t p, GoesBack config payload t p steps id) ∧
      (∀ t p id, GoesBack config payload t p steps id →
        (∃ j, d.board.get? id = some j ∧ Layered t.options p.defaults j.plan.environment) ∧
        ∀ e ∈ s.log, ∀ a, e.answer = .work (.ok (.build a)) → a.job.buildId = id →
          ∀ environment, Worker.StartsWith a environment →
            Layered t.options p.defaults environment) ∧
      ∀ pipeline revisions p id,
        GoesBack config payload (.material pipeline revisions) p steps id →
          ∃ j, d.board.get? id = some j ∧ ∀ inherited name,
            (Task.environment inherited j.plan.environment).get? name =
              (p.defaults.get? name).or (inherited.get? name)) := by
  intro s d
  have orderly : Orderly config d := orderly_session config payload steps
  refine ⟨fun t now pipeline label ids => layered_of_scheduled orderly, ?_, ?_⟩
  · intro x id copy copies
    obtain ⟨j, j', stored, stored', same⟩ := request_of_copies orderly copies
    exact ⟨j, j', stored, stored', congrArg JobRequest.plan same⟩
  · intro few
    refine ⟨fun id j stored => exists_goesBack few stored, ?_, ?_⟩
    · intro t p id back
      obtain ⟨j, stored, layered⟩ := back.layered few
      refine ⟨⟨j, stored, layered⟩, ?_⟩
      rintro e logged a handed rfl environment starts
      obtain ⟨j', stored', plan⟩ := stored_of_logged few logged handed
      cases stored.symm.trans stored'
      rw [starts.given, ← plan]
      exact layered
    · intro pipeline revisions p id back
      obtain ⟨j, stored, layered⟩ := back.layered few
      exact ⟨j, stored, layered.seen⟩

def tunedSite : Pipeline :=
  ⟨"site", [], [⟨"repo", "/repo"⟩], .ofList [("LANG", "en"), ("MODE", "dev"), ("TOKEN", "none")],
    [⟨"build", [⟨"compile", [], [⟨"make", [], none⟩]⟩]⟩]⟩

def tuned : Config := ⟨true, .unrestricted, [tunedSite]⟩

/-- A job is made with options of two kinds, then made again, and the copy is handed out. -/
theorem tasks_see_layers_copy :
    let options : TriggerOptions :=
      ⟨∅, .ofList [("MODE", "fast"), ("TOKEN", "shown")], .ofList [("TOKEN", "hidden")]⟩
    let info := Snapshot.fresh ⟨"host", "10.0.0.1", "u1"⟩ "/agent"
    let s := session tuned (.new none none)
      [⟨.trigger (.manual "site" "ann" options), 5⟩, ⟨.rescheduleJob 1, 6⟩, ⟨.getWork info, 7⟩]
    ∃ e ∈ s.log, ∃ a, e.answer = .work (.ok (.build a)) ∧ a.job.buildId = 2 ∧
      Worker.StartsWith a a.plan.environment ∧ ∀ inherited : Table String String,
        let seen := Task.environment inherited a.plan.environment
        seen.get? "TOKEN" = some "hidden" ∧ seen.get? "MODE" = some "fast" ∧
          seen.get? "LANG" = some "en" ∧ seen.get? "HOME" = inherited.get? "HOME" := by
  intro options info s
  let Back := GoesBack tuned (.new none none) (.manual "site" "ann" options) tunedSite
  have made : Back ([] ++ [⟨.trigger (.manual "site" "ann" options), 5⟩]) 1 :=
    .made rfl (by rfl) List.mem_cons_self
  have copied : Back (_ ++ [⟨.rescheduleJob 1, 6⟩]) 2 := made.copied (.asked rfl rfl)
  have back := copied.before ⟨.getWork info, 7⟩
  have few : s.state.board.Few := by
    change 2 < 2 ^ 64 - 1
    decide
  obtain ⟨a, answer, number, tasks⟩ : ∃ a, s.log.getLast?.map Entry.answer =
      some (.work (.ok (.build a))) ∧ a.job.buildId = 2 ∧ a.plan.tasks ≠ [] :=
    ⟨_, rfl, rfl, nofun⟩
  obtain ⟨e, last, handed⟩ := Option.map_eq_some_iff.1 answer
  have logged : e ∈ s.log := List.mem_of_getLast? last
  have starts := Worker.startsWith_plan tasks
  obtain ⟨-, -, layers⟩ := tasks_see_layers tuned (.new none none)
    [⟨.trigger (.manual "site" "ann" options), 5⟩, ⟨.rescheduleJob 1, 6⟩, ⟨.getWork info, 7⟩]
  have layered := ((layers few).2.1 _ _ 2 back).2 e logged a handed number _ starts
  refine ⟨e, logged, a, handed, number, starts, fun inherited => ?_⟩
  exact ⟨layered.seen inherited "TOKEN", layered.seen inherited "MODE",
    layered.seen inherited "LANG", layered.seen inherited "HOME"⟩

end Dispatcher

end BuildDispatch
