import BuildDispatch.Proofs.Worker.Attendance

/-!
Every job that is handed to an agent ends: when the agent is done with it, it was retired by an
operator, or it is completed with the result that the agent came to, unless it was cancelled
(`Worker.handed_job_ends`).
-/
namespace BuildDispatch.Worker

open Dispatcher (Cancels Retires WasCancelled WasRetired)

/-- What holds at the end of every run of a script, if there are few jobs throughout. -/
def Brings {α : Type} (uuid : String) (post : α → Served → Prop) (p : Script α) (v : Served) :
    Prop :=
  Program.Ends (fun β v x b w => Serves uuid β v x b w ∧ w.Few) (fun _ => post) p v

namespace Brings

variable {α β : Type} {uuid : String} {post post' : α → Served → Prop} {p : Script α} {v : Served}

theorem mono (h : Brings uuid post p v) (values : ∀ a w, post a w → post' a w) :
    Brings uuid post' p v :=
  Program.Ends.mono h fun _ => values

theorem pure {a : α} (h : post a v) : Brings uuid post (Pure.pure a : Script α) v :=
  Program.Ends.done h

theorem bind {post : β → Served → Prop} {f : α → Script β}
    (h : Brings uuid (fun a w => Brings uuid post (f a) w) p v) : Brings uuid post (p >>= f) v :=
  Program.Ends.bind h

end Brings

theorem Beside.log_grows {uuid : String} {v w : Served} (beside : Beside uuid v w) :
    v.dispatcher.log <+: w.dispatcher.log := by
  induction beside with
  | nothing => exact List.prefix_refl _
  | trip _ ih | shutDown _ ih => exact ih
  | asked _ _ _ _ ih => exact (List.prefix_append _ _).trans ih
  | swept _ _ _ ih => exact (List.prefix_append _ _).trans ih

namespace Attended

variable {config : Config} {info : Snapshot} {id : BuildId} {state : JobState} {result : JobResult}
  {v : Served} {α : Type}

section

variable (h : Attended config info id state result v)
include h

/-- What changes nothing of an agent's badge leaves the job where it stands. -/
theorem note_brings (f : WorkerState → α × WorkerState)
    (same : (f v.agent).2.info.badge = v.agent.info.badge) :
    Brings info.uuid (fun a w => a = (f v.agent).1 ∧ Attended config info id state result w)
      (.ask (.note f)) v :=
  Program.Ends.ask fun _ _ step => ⟨step.1.1, (h.change _ same).beside step.1.2 step.2⟩

theorem look_brings (f : WorkerState → α) :
    Brings info.uuid (fun a w => a = f v.agent ∧ Attended config info id state result w)
      (look f) v :=
  h.note_brings _ rfl

theorem change_brings {f : WorkerState → WorkerState}
    (same : (f v.agent).info.badge = v.agent.info.badge) :
    Brings info.uuid (fun _ w => Attended config info id state result w) (Worker.change f) v :=
  (h.note_brings _ same).mono fun _ _ => And.right

theorem quiet_brings {x : Action α}
    (quiet : ∀ a w, Serves info.uuid α v x a w → Beside info.uuid v w) :
    Brings info.uuid (fun _ w => Attended config info id state result w) (.ask x) v :=
  Program.Ends.ask fun a w step => h.beside (quiet a w step.1) step.2

theorem isIgnored_brings (job : JobRef) :
    Brings info.uuid (fun _ w => Attended config info id state result w)
      (Worker.call (.isIgnored job)) v := by
  refine Program.Ends.ask fun a w step => ?_
  obtain ⟨⟨x, -, beside⟩, few⟩ := step
  have same : ((Call.isIgnored job).ask x v.dispatcher).2 = v.dispatcher :=
    congrArg (Session.mk · _) (List.append_nil _)
  rw [same] at beside
  exact h.beside beside few

theorem report_brings {r : Report} (ahead : state.canAdvanceTo r.target = true)
    (firm : result = .cancelled → r.verdict result = .cancelled) {said : Snapshot}
    (shown : said.badge = info.badge) {job : JobRef} (about : job.buildId = id) :
    Brings info.uuid (fun answer w => Attended config info id r.target (r.verdict result) w ∧
      ∃ outcome, answer = .ok outcome ∧
        ∀ reason, outcome = .rejected reason → WasRetired w.dispatcher.log id)
      (Worker.call (r.call said job)) v := by
  refine Program.Ends.ask fun answer w step => ?_
  obtain ⟨⟨x, rfl, beside⟩, few⟩ := step
  obtain ⟨attended, outcome, answered, rejected⟩ := h.report ahead firm shown about x
  refine ⟨attended.beside beside few, outcome, answered, fun reason refused => ?_⟩
  obtain ⟨e, asked, retires⟩ := rejected reason refused
  have later := (List.prefix_append _ _).trans beside.log_grows
  exact ⟨e, later.subset asked, retires⟩

theorem announce_brings (next : JobState) (ahead : state.canAdvanceTo next = true) {job : JobRef}
    (about : job.buildId = id) :
    Brings info.uuid (fun further w => Attended config info id next result w ∧
      (further = false → WasRetired w.dispatcher.log id)) (announce job next) v := by
  refine .bind ((h.look_brings _).mono ?_)
  rintro _ w ⟨rfl, attended⟩
  refine .bind ((attended.report_brings (r := .status next) ahead (·) h.shown about).mono ?_)
  rintro _ u ⟨reported, outcome, rfl, rejected⟩
  cases outcome with
  | rejected reason => exact .pure ⟨reported, fun _ => rejected reason rfl⟩
  | accepted | duplicate => exact .pure ⟨reported, nofun⟩

theorem checkIgnored_brings (job : JobRef) :
    Brings info.uuid (fun _ w => Attended config info id state result w) (checkIgnored job) v := by
  refine .bind ((h.isIgnored_brings job).mono fun answer w attended => ?_)
  rcases answer with e | ignored
  · exact .pure attended
  · cases ignored with
    | false => exact .pure attended
    | true => exact attended.change_brings rfl

end

theorem runTasks_brings (job : JobRef) (environment : List Variable) (tasks : List Task)
    (h : Attended config info id state result v) :
    Brings info.uuid (fun _ w => Attended config info id state result w)
      (runTasks job environment tasks) v := by
  induction tasks generalizing v with
  | nil => exact .bind ((h.look_brings _).mono fun _ _ looked => .pure looked.2)
  | cons task rest ih =>
    refine .bind ((h.checkIgnored_brings job).mono fun _ w attended => ?_)
    refine .bind ((attended.look_brings _).mono ?_)
    rintro tripped u ⟨-, attended⟩
    cases tripped with
    | true => exact .pure attended
    | false =>
      refine .bind ((attended.quiet_brings (x := .runTask job task environment)
        fun _ _ beside => beside).mono fun outcome t attended => ?_)
      cases outcome with
      | succeeded => exact ih attended
      | failed code => exact .pure attended
      | cancelled => exact .pure attended

theorem execute_brings {a : Assignment}
    (h : Attended config info a.job.buildId .assigned result v) :
    Brings info.uuid (fun r w =>
      (∃ state, state.canAdvanceTo .completing = true ∧
        Attended config info a.job.buildId state result w) ∧
      (r = none → WasRetired w.dispatcher.log a.job.buildId)) (execute a) v := by
  refine .bind ((h.announce_brings .preparing rfl rfl).mono ?_)
  rintro further w ⟨preparing, rejected⟩
  cases further with
  | false => exact .pure ⟨⟨_, rfl, preparing⟩, fun _ => rejected rfl⟩
  | true =>
    refine .bind ((preparing.quiet_brings (x := .prepareDirectory a.job)
      fun _ _ beside => beside).mono fun made u preparing => ?_)
    cases made with
    | false => exact .pure ⟨⟨_, rfl, preparing⟩, nofun⟩
    | true =>
      refine .bind ((preparing.announce_brings .building rfl rfl).mono ?_)
      rintro further w ⟨building, rejected⟩
      cases further with
      | false => exact .pure ⟨⟨_, rfl, building⟩, fun _ => rejected rfl⟩
      | true =>
        refine .bind ((building.runTasks_brings _ _ _).mono fun r t building => ?_)
        exact .pure ⟨⟨_, rfl, building⟩, nofun⟩

/-- The first attempt at a report succeeds. -/
theorem deliver_brings (phase : Phase) {verdict : JobResult} (left : Nat)
    (ahead : state.canAdvanceTo (phase.report verdict).target = true)
    (firm : result = .cancelled → verdict = .cancelled) {job : JobRef} (about : job.buildId = id)
    (h : Attended config info id state result v) :
    Brings info.uuid (fun own w => own = true ∧
      Attended config info id (phase.report verdict).target verdict w)
      (deliver phase job verdict (left + 1)) v := by
  have calls (said : Snapshot) :
      phase.call said job verdict = (phase.report verdict).call said job := by
    cases phase <;> rfl
  have tells : (phase.report verdict).verdict result = verdict := by
    cases phase <;> rfl
  refine .bind ((h.look_brings _).mono ?_)
  rintro _ w ⟨rfl, attended⟩
  rw [calls]
  refine .bind ((attended.report_brings ahead (by rwa [tells]) h.shown about).mono ?_)
  rintro _ u ⟨reported, outcome, rfl, -⟩
  rw [tells] at reported
  exact .pure ⟨rfl, reported⟩

theorem reportCompletion_brings {verdict : JobResult} {job : JobRef} (about : job.buildId = id)
    (ahead : state.canAdvanceTo .completing = true)
    (h : Attended config info id state .unknown v) :
    Brings info.uuid (fun _ w => Attended config info id .completed verdict w)
      (reportCompletion job verdict) v := by
  refine .bind ((deliver_brings .completing 2 ahead (by simp) about h).mono ?_)
  rintro _ w ⟨rfl, completing⟩
  refine .bind ((deliver_brings .completed 2 rfl (·) about completing).mono ?_)
  rintro _ u ⟨-, completed⟩
  exact .pure completed

/-- However the agent has come to a result, if at all: that is where the job stands in the end. -/
theorem finish_brings {a : Assignment} (about : a.job.buildId = id)
    (ahead : state.canAdvanceTo .completing = true)
    (h : Attended config info id state .unknown v) (r : Option JobResult) :
    Brings info.uuid (fun _ w => ∃ state' result', Attended config info id state' result' w ∧
      ∀ verdict, r = some verdict → state' = .completed ∧ result' = verdict)
      (do
        match r with
        | none => pure ()
        | some result =>
          if result = .cancelled then Worker.change (·.cancelled)
          reportCompletion a.job result
        Worker.change (·.disarm)
        Worker.change (·.idle)) v := by
  have leaves {state' : JobState} {result' : JobResult} {w : Served}
      (h : Attended config info id state' result' w) :
      Brings info.uuid (fun _ w => Attended config info id state' result' w)
        (do Worker.change (·.disarm); Worker.change (·.idle)) w :=
    .bind ((h.change_brings rfl).mono fun _ _ h => h.change_brings rfl)
  cases r with
  | none => exact (leaves h).mono fun _ w h => ⟨_, _, h, nofun⟩
  | some verdict =>
    have reports {w : Served} (h : Attended config info id state .unknown w) :
        Brings info.uuid (fun _ w => Attended config info id .completed verdict w)
          (do reportCompletion a.job verdict; Worker.change (·.disarm); Worker.change (·.idle)) w :=
      .bind ((h.reportCompletion_brings about ahead).mono fun _ _ h => leaves h)
    have done {w : Served} (h : Attended config info id .completed verdict w) :
        ∃ state' result', Attended config info id state' result' w ∧
          ∀ verdict', some verdict = some verdict' → state' = .completed ∧ result' = verdict' :=
      ⟨_, _, h, fun _ same => ⟨rfl, Option.some.inj same⟩⟩
    dsimp only
    split
    · exact .bind ((h.change_brings rfl).mono fun _ _ h => (reports h).mono fun _ _ => done)
    · exact (reports h).mono fun _ _ => done

end Attended

theorem Serves.orderly {config : Config} {uuid : String} {β : Type} {v w : Served} {x : Action β}
    {b : β} (step : Serves uuid β v x b w) (h : v.dispatcher.state.Orderly config) :
    w.dispatcher.state.Orderly config ∧ (w.Few → v.Few) := by
  cases x with
  | note f => exact ⟨(step.2.orderly h).1, (step.2.orderly h).2.trans_lt⟩
  | call c =>
    obtain ⟨x, -, beside⟩ := step
    have first := orderly_ask h c x
    have later := beside.orderly first.1
    exact ⟨later.1, (first.2.trans later.2).trans_lt⟩
  | prepareDirectory | runTask | rest | pause | awaitPing =>
    have later := Beside.orderly step h
    exact ⟨later.1, later.2.trans_lt⟩

theorem Serves.log_grows {uuid : String} {β : Type} {v w : Served} {x : Action β} {b : β}
    (step : Serves uuid β v x b w) : v.dispatcher.log <+: w.dispatcher.log := by
  cases x with
  | note f => exact step.2.log_grows
  | call c =>
    obtain ⟨x, -, beside⟩ := step
    exact (List.prefix_append _ _).trans beside.log_grows
  | prepareDirectory | runTask | rest | pause | awaitPing => exact Beside.log_grows step

theorem log_grows_run {uuid : String} {α : Type} {p : Script α} {v w : Served}
    {trace : Program.Trace Action} {a : α} (run : Program.Run (Serves uuid) v p trace a w) :
    v.dispatcher.log <+: w.dispatcher.log := by
  have keeps {β : Type} {s t : Served} {x : Action β} {b : β} (step : Serves uuid β s x b t)
      (grown : v.dispatcher.log <+: s.dispatcher.log) : v.dispatcher.log <+: t.dispatcher.log :=
    grown.trans step.log_grows
  have grown := run.keeps keeps (List.prefix_refl v.dispatcher.log)
  exact grown

/-- An agent to which a job has just been handed attends to it. -/
theorem attended_of_given {config : Config} {payload : PayloadStore}
    {steps : List (BuildDispatch.Step Dispatcher.Call)} {info : Snapshot} {now : Timestamp}
    {a : Assignment} {d : Dispatcher}
    (given : (Dispatcher.session config payload steps).state.getWork info now = (.ok (.build a), d))
    {agent : WorkerState} (own : agent.info = info) :
    Attended config info a.job.buildId .assigned .unknown ⟨agent, .start d⟩ := by
  have orderly := Dispatcher.orderly_session config payload steps
  have opened : (Dispatcher.session config payload steps).state.board.Open :=
    Dispatcher.open_session config payload steps
  generalize (Dispatcher.session config payload steps).state = before at given orderly opened
  have performed : before.perform now (.getWork info) = (.work (.ok (.build a)), d) := by
    simp only [Dispatcher.perform, given]
  obtain ⟨noted, stands⟩ := Dispatcher.stands_of_given orderly.tended opened given
  have admitted : before.roster.Admits info := by
    by_contra refused
    have error := (Dispatcher.perform_of_not_admits before now (c := .getWork info) rfl refused).1
    rw [performed] at error
    cases error
  have after := orderly.perform now (.getWork info)
  have bound := Dispatcher.bound?_perform before ⟨.getWork info, now⟩ info.uuid
  rw [performed] at after bound
  exact ⟨after, noted, congrArg Snapshot.badge own,
    fun cookie location shown => admitted cookie location (bound.symm.trans shown), stands⟩

/--
The run of a job that was just handed to an agent never gets stuck, and when it is over, the job has
ended at the dispatcher. If an operator had it made again since, it was retired; else it is
completed, as cancelled if an operator cancelled it since, and with the result that `execute` came
to if not. The agent's next call for work then makes no job again. Every call is delivered and
answered, and nobody else speaks for the agent except by pings.
-/
theorem handed_job_ends (config : Config) (payload : PayloadStore)
    (steps : List (BuildDispatch.Step Dispatcher.Call)) (info : Snapshot) (now : Timestamp)
    (a : Assignment) (d : Dispatcher)
    (given : (Dispatcher.session config payload steps).state.getWork info now = (.ok (.build a), d))
    (agent : WorkerState) (own : agent.info = info) (v : Served)
    (beside : Beside info.uuid ⟨agent, .start d⟩ v) :
    (∀ m rest, Program.Reaches (Serves info.uuid) ⟨[], v⟩ (runJob a) m rest →
      ∃ trace w, Program.Run (Serves info.uuid) m.state rest trace () w) ∧
    ∀ trace w, Program.Run (Serves info.uuid) v (runJob a) trace () w → w.Few →
      ∃ first working last begun r ended j,
        trace = first ++ working ++ last ∧ first.length = 2 ∧
        Program.Run (Serves info.uuid) begun (execute a) working r ended ∧
        w.dispatcher.state.board.get? a.job.buildId = some j ∧
        (WasRetired w.dispatcher.log a.job.buildId → j.state = .rescheduled) ∧
        (¬WasRetired w.dispatcher.log a.job.buildId → j.state = .completed ∧
          (WasCancelled w.dispatcher.log a.job.buildId → j.result = .cancelled) ∧
          (¬WasCancelled w.dispatcher.log a.job.buildId → r = some j.result)) ∧
        ∀ info' now', info'.uuid = info.uuid → w.dispatcher.state.board.RequeuesNothing
          (w.dispatcher.state.getWork info' now').2.board := by
  have start := attended_of_given given own
  refine ⟨fun m rest _ => ?_, fun trace w run few => ?_⟩
  · obtain ⟨trace, ⟨⟩, w, run⟩ := Program.exists_run (exists_serves info.uuid) rest m.state
    exact ⟨trace, w, run⟩
  have orderly := (beside.orderly start.orderly).1
  have forth {β : Type} {s t : Served} {x : Action β} {b : β} (step : Serves info.uuid β s x b t)
      (h : s.dispatcher.state.Orderly config) := (step.orderly h).1
  have back {β : Type} {s t : Served} {x : Action β} {b : β} (step : Serves info.uuid β s x b t)
      (h : s.dispatcher.state.Orderly config) := (step.orderly h).2
  obtain ⟨few, guarded⟩ := run.guarded forth back orderly few
  -- The agent takes the job up, runs it, and reports on it.
  obtain ⟨_, v₁, _, rfl, ⟨⟨-, beside₁⟩, few₁⟩, later⟩ := Program.run_act_iff.1 guarded
  obtain ⟨_, v₂, _, rfl, ⟨⟨-, beside₂⟩, few₂⟩, later⟩ := Program.run_act_iff.1 later
  change Program.Run _ v₂ ((execute a).bind _) _ () w at later
  obtain ⟨working, last, r, ended, rfl, executed, finished⟩ := Program.run_bind_iff.1 later
  have taken := ((start.beside beside few).change (v.agent.building a.job) rfl).beside beside₁ few₁
  have armed := (taken.change v₁.agent.arm rfl).beside beside₂ few₂
  obtain ⟨⟨state, ahead, working⟩, rejected⟩ := armed.execute_brings _ _ _ executed
  obtain ⟨state', result', done, reported⟩ := working.finish_brings rfl ahead r _ _ _ finished
  have executed := executed.imp And.left
  have finished := finished.imp And.left
  obtain ⟨j, stored, -, ⟨retired, stays, cancelled, resulted⟩⟩ := done.stands
  rw [done.keyed stored] at retired stays cancelled resulted
  have completed (never : ¬WasRetired w.dispatcher.log a.job.buildId) :
      r = some result' ∧ j.state = .completed := by
    cases r with
    | some verdict =>
      obtain ⟨rfl, rfl⟩ := reported verdict rfl
      exact ⟨rfl, stays never⟩
    | none =>
      -- The agent left the job alone because it was told that the job had been retired.
      obtain ⟨e, asked, retires⟩ := rejected rfl
      exact absurd ⟨e, (log_grows_run finished).subset asked, retires⟩ never
  refine ⟨[_, _], _, last, v₂, r, ended, j, rfl, rfl, executed, stored, retired,
    fun never => ?_, ?_⟩
  · obtain ⟨came, there⟩ := completed never
    exact ⟨there, cancelled never,
      fun unmarked => came.trans (congrArg some (resulted never unmarked).symm)⟩
  · intro info' now' same
    have terminal : j.isTerminal = true := by
      unfold Job.isTerminal
      by_cases was : WasRetired w.dispatcher.log a.job.buildId
      · rw [retired was]
        rfl
      · rw [(completed was).2]
        rfl
    have noted := done.noted
    rw [← same] at noted
    exact Dispatcher.requeuesNothing_getWork done.orderly.tended.coherent noted stored terminal now'

/-- A job without tasks is cancelled while its agent prepares for it. -/
theorem handed_job_ends_cancelled :
    let info := Snapshot.fresh ⟨"host", "10.0.0.1", "u1"⟩ "/agent"
    let s := Dispatcher.session Dispatcher.site (.new none none)
      [⟨.trigger (.material "site" [⟨"repo", "r1"⟩]), 5⟩]
    ∃ a d trace w, s.state.getWork info 6 = (.ok (.build a), d) ∧
      Program.Run (Serves "u1") ⟨.start info, .start d⟩ (runJob a) trace () w ∧
      WasCancelled w.dispatcher.log a.job.buildId ∧
      ∃ j, w.dispatcher.state.board.get? a.job.buildId = some j ∧ j.state = .completed ∧
        j.result = .cancelled := by
  intro info s
  let a : Assignment :=
    ⟨⟨"site", "1", "build", "compile", 1⟩, ⟨∅, [], [], "site/1/build/compile"⟩⟩
  let d := (s.state.getWork info 6).2
  let x (now : Timestamp) : Circumstances := ⟨now, 0, ⟨"ck"⟩, none⟩
  have given : s.state.getWork info 6 = (.ok (.build a), d) := Prod.ext (by decide +kernel) rfl
  have spares : ∀ op ∈ (Call.cancelJob 1).operation? (x 8), op.Spares "u1" := by
    rintro _ ⟨⟩
    trivial
  obtain ⟨trace, w, run, few, cancelled, unretired⟩ : ∃ trace w,
      Program.Run (Serves "u1") ⟨.start info, .start d⟩ (runJob a) trace () w ∧ w.Few ∧
      WasCancelled w.dispatcher.log 1 ∧ ¬WasRetired w.dispatcher.log 1 := by
    refine ⟨_, _,
      -- The job is taken up, and its preparation is announced.
      .act ⟨rfl, .nothing⟩ <| .act ⟨rfl, .nothing⟩ <| .act ⟨rfl, .nothing⟩ <|
      .act (b := .ok .accepted) ⟨x 7, by decide +kernel, .nothing⟩ <|
      .act (b := true) (.asked (.cancelJob 1) (x 8) spares .nothing) <|
      -- It is built, as far as the agent knows.
      .act ⟨rfl, .nothing⟩ <| .act (b := .ok .accepted) ⟨x 9, by decide +kernel, .nothing⟩ <|
      .act ⟨rfl, .nothing⟩ <|
      -- The two reports at its end are taken in.
      .act ⟨rfl, .nothing⟩ <| .act (b := .ok .accepted) ⟨x 10, by decide +kernel, .nothing⟩ <|
      .act ⟨rfl, .nothing⟩ <| .act (b := .ok .accepted) ⟨x 11, by decide +kernel, .nothing⟩ <|
      .act ⟨rfl, .nothing⟩ <| .act ⟨rfl, .nothing⟩ .done, ?_, ?_, ?_⟩
    · unfold Served.Few Board.Few
      decide +kernel
    · decide +kernel
    · decide +kernel
  have ends := (handed_job_ends Dispatcher.site (.new none none) _ info 6 a d given (.start info)
    rfl _ .nothing).2
  obtain ⟨_, _, _, _, _, _, j, -, -, -, stored, -, completed, -⟩ := ends trace w run few
  obtain ⟨there, marked, -⟩ := completed unretired
  exact ⟨a, d, trace, w, given, run, cancelled, j, stored, there, marked cancelled⟩

end BuildDispatch.Worker
