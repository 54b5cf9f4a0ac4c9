import BuildDispatch.Proofs.Worker.Conversation

/-!
Which tasks of a job an agent starts, upon what, and to which result that comes
(`Worker.starts_tasks_in_order`).
-/
namespace BuildDispatch.Worker

/-- An action that was carried out, with its answer. -/
abbrev Deed := Σ β : Type, Action β × β

/-- The agent reported a state of a job. -/
def reported (info : Snapshot) (job : JobRef) (state : JobState)
    (answer : Except CallError ReportOutcome) : Deed :=
  ⟨_, .call (.reportCurrentStatus info job state), answer⟩

def prepared (job : JobRef) (made : Bool) : Deed := ⟨_, .prepareDirectory job, made⟩

def asked (job : JobRef) (answer : Except CallError Bool) : Deed :=
  ⟨_, .call (.isIgnored job), answer⟩

def checked (tripped : Bool) : Deed := ⟨_, .note fun s => (s.isTripped, s), tripped⟩

/-- A task that was started: for which job, with which variables, and how it ended. -/
structure TaskRun where
  job : JobRef
  task : Task
  environment : List Variable
  outcome : TaskOutcome

def taskRun? : Deed → Option TaskRun
  | ⟨_, .runTask job task environment, outcome⟩ => some ⟨job, task, environment, outcome⟩
  | _ => none

def taskRuns (past : Program.Trace Action) : List TaskRun := past.reverse.filterMap taskRun?

def answer? : Deed → Option (Except CallError Bool)
  | ⟨_, .call (.isIgnored _), answer⟩ => some answer
  | _ => none

/-- Whether an action concerns nobody but the agent itself. -/
def isNote : Deed → Bool
  | ⟨_, .note _, _⟩ => true
  | _ => false

/-- The agent was not told to leave any job alone. -/
def Undisturbed (past : Program.Trace Action) : Prop := ∀ job, asked job (.ok true) ∉ past

/-- What an agent starts a task upon. -/
structure Started (a : Assignment) (past : Program.Trace Action) (job : JobRef) (task : Task)
    (environment : List Variable) : Prop where
  own : job = a.job
  given : environment = a.plan.environment
  next : (taskRuns past).map TaskRun.task ++ [task] <+: a.plan.tasks
  succeeded : ∀ r ∈ taskRuns past, r.outcome = .succeeded
  free : Undisturbed past
  checked : ∃ answer earlier, past = Worker.checked false :: asked a.job answer :: earlier

/-- One of the two reports ahead of the tasks was refused, or the job is another agent's. -/
def IsRefusal (a : Assignment) (deed : Deed) : Prop :=
  ∃ info state answer, (state = .preparing ∨ state = .building) ∧
    deed = reported info a.job state answer ∧ (Attempt.mk info answer).isFinal = true

/-- The agent was told not to go on with the job. -/
def Abandoned (a : Assignment) (past : Program.Trace Action) : Prop :=
  ∃ deed ∈ past, IsRefusal a deed

/-- There was no directory, or the task that was started last failed. -/
def Broken (a : Assignment) (past : Program.Trace Action) : Prop :=
  prepared a.job false ∈ past ∨ ∃ r code, (taskRuns past).getLast? = some r ∧
    r.outcome = .failed code

/-- All tasks were started and succeeded, and at the end the job was not to stop. -/
structure Finished (a : Assignment) (past : Program.Trace Action) : Prop where
  all : (taskRuns past).map TaskRun.task = a.plan.tasks
  succeeded : ∀ r ∈ taskRuns past, r.outcome = .succeeded
  checked : past.head? = some (checked false)

/-- The result that a job comes to by what happened. -/
structure Concluded (a : Assignment) (past : Program.Trace Action) (result : Option JobResult) :
    Prop where
  none_iff : result = none ↔ Abandoned a past
  failed_iff : result = some .failed ↔ Broken a past
  passed_iff : result = some .passed ↔ Finished a past
  cancelled_iff : result = some .cancelled ↔
    ¬ Abandoned a past ∧ ¬ Broken a past ∧ ¬ Finished a past

/-- A task is started only upon what `Started` says. -/
def StartsOnly (a : Assignment) (m : Moment) : (β : Type) → Action β → Prop
  | _, .runTask job task environment => Started a m.past job task environment
  | _, _ => True

section Concluded

variable {a : Assignment} {past : Program.Trace Action}

theorem concluded_none (abandoned : Abandoned a past) (whole : ¬ Broken a past)
    (open' : ¬ Finished a past) : Concluded a past none where
  none_iff := iff_of_true rfl abandoned
  failed_iff := iff_of_false nofun whole
  passed_iff := iff_of_false nofun open'
  cancelled_iff := iff_of_false nofun fun h => h.1 abandoned

theorem concluded_failed (kept : ¬ Abandoned a past) (broken : Broken a past)
    (open' : ¬ Finished a past) : Concluded a past (some .failed) where
  none_iff := iff_of_false nofun kept
  failed_iff := iff_of_true rfl broken
  passed_iff := iff_of_false nofun open'
  cancelled_iff := iff_of_false nofun fun h => h.2.1 broken

theorem concluded_passed (kept : ¬ Abandoned a past) (whole : ¬ Broken a past)
    (finished : Finished a past) : Concluded a past (some .passed) where
  none_iff := iff_of_false nofun kept
  failed_iff := iff_of_false nofun whole
  passed_iff := iff_of_true rfl finished
  cancelled_iff := iff_of_false nofun fun h => h.2.2 finished

theorem concluded_cancelled (kept : ¬ Abandoned a past) (whole : ¬ Broken a past)
    (open' : ¬ Finished a past) : Concluded a past (some .cancelled) where
  none_iff := iff_of_false nofun kept
  failed_iff := iff_of_false nofun whole
  passed_iff := iff_of_false nofun open'
  cancelled_iff := iff_of_true rfl ⟨kept, whole, open'⟩

end Concluded

section

variable {a : Assignment} {past : Program.Trace Action} {deed : Deed} {s t : WorkerState}

theorem taskRuns_cons : taskRuns (deed :: past) = taskRuns past ++ (taskRun? deed).toList := by
  unfold taskRuns
  rw [List.reverse_cons, List.filterMap_append]
  cases h : taskRun? deed with
  | none => rw [List.filterMap_cons_none h]; rfl
  | some r => rw [List.filterMap_cons_some h]; rfl

theorem taskRuns_after {m : Moment} {β : Type} {x : Action β} {b : β}
    (other : taskRun? ⟨β, x, b⟩ = none) : taskRuns (m.after x b t).past = taskRuns m.past := by
  change taskRuns (_ :: m.past) = taskRuns m.past
  rw [taskRuns_cons, other]
  exact List.append_nil _

theorem Undisturbed.after {m : Moment} {β : Type} {x : Action β} {b : β}
    (free : Undisturbed m.past) (other : answer? ⟨β, x, b⟩ ≠ some (.ok true)) :
    Undisturbed (m.after x b t).past := by
  intro job told
  rcases List.mem_cons.1 told with same | told
  · rw [← same] at other
    exact other rfl
  · exact free job told

theorem abandoned_cons :
    Abandoned a (deed :: past) ↔ IsRefusal a deed ∨ Abandoned a past := by
  simp [Abandoned]

theorem not_isRefusal_of_silent (silent : sign? deed = none) : ¬ IsRefusal a deed := by
  rintro ⟨info, state, answer, -, rfl, -⟩
  cases silent

theorem ne_prepared_of_silent (silent : sign? deed = none) : deed ≠ prepared a.job false := by
  rintro rfl
  cases silent

/-- What ends with another action does not end with a look. -/
theorem not_finished_of_other (other : isNote deed = false) : ¬ Finished a (deed :: past) := by
  intro finished
  obtain rfl : deed = checked false := Option.some.inj finished.checked
  exact Bool.false_ne_true other.symm

/-- A job keeps its token while its script runs. -/
theorem Meanwhile.armed (h : Meanwhile s t) : t.stopped.isSome = s.stopped.isSome := by
  induction h with
  | nothing => rfl
  | trip _ ih => exact ih.trans (Option.isSome_map ..)
  | cookie _ _ ih | shutDown _ ih => exact ih

/-- What is to stop does not go on again. -/
theorem Meanwhile.isTripped (h : Meanwhile s t) (tripped : s.isTripped = true) :
    t.isTripped = true := by
  induction h with
  | nothing => exact tripped
  | trip _ ih =>
    refine ih ?_
    rcases Bool.or_eq_true_iff.1 tripped with shutDown | stopped
    · exact Bool.or_eq_true_iff.2 (.inl shutDown)
    · refine Bool.or_eq_true_iff.2 (.inr (decide_eq_true ?_))
      exact congrArg (Option.map fun _ => true) (of_decide_eq_true stopped)
  | cookie _ _ ih => exact ih tripped
  | shutDown _ ih => exact ih rfl

theorem isTripped_trip (armed : s.stopped.isSome = true) : s.trip.isTripped = true := by
  obtain ⟨tripped, stopped⟩ := Option.isSome_iff_exists.1 armed
  simp [WorkerState.trip, WorkerState.isTripped, stopped]

end

/-- A job whose tasks succeeded so far, these ones, and that could be made and reported on. -/
structure Intact (a : Assignment) (begun : List Task) (m : Moment) : Prop where
  armed : m.state.stopped.isSome = true
  tasks : (taskRuns m.past).map TaskRun.task = begun
  succeeded : ∀ r ∈ taskRuns m.past, r.outcome = .succeeded
  kept : ¬ Abandoned a m.past
  made : prepared a.job false ∉ m.past

namespace Intact

variable {a : Assignment} {begun : List Task} {m : Moment} {β : Type} {x : Action β} {b : β}
  {t : WorkerState} (h : Intact a begun m)
include h

theorem not_broken : ¬ Broken a m.past := by
  rintro (unmade | ⟨r, code, last, failed⟩)
  · exact h.made unmade
  · cases (h.succeeded r (List.mem_of_getLast? last)).symm.trans failed

theorem kept_after (kept : ¬ IsRefusal a ⟨β, x, b⟩) : ¬ Abandoned a (m.after x b t).past :=
  fun abandoned => (abandoned_cons.1 abandoned).elim kept h.kept

theorem made_after (made : (⟨β, x, b⟩ : Deed) ≠ prepared a.job false) :
    prepared a.job false ∉ (m.after x b t).past :=
  fun unmade => (List.mem_cons.1 unmade).elim (fun same => made same.symm) h.made

/-- No task is started, and what happens does not speak against the job. -/
theorem after (beside : Meanwhile m.state t) (other : taskRun? ⟨β, x, b⟩ = none)
    (kept : ¬ IsRefusal a ⟨β, x, b⟩) (made : (⟨β, x, b⟩ : Deed) ≠ prepared a.job false) :
    Intact a begun (m.after x b t) where
  armed := beside.armed.trans h.armed
  tasks := by
    rw [taskRuns_after other]
    exact h.tasks
  succeeded := by
    rw [taskRuns_after other]
    exact h.succeeded
  kept := h.kept_after kept
  made := h.made_after made

theorem unnoticed (beside : Meanwhile m.state t) (other : taskRun? ⟨β, x, b⟩ = none)
    (silent : sign? ⟨β, x, b⟩ = none) : Intact a begun (m.after x b t) :=
  h.after beside other (not_isRefusal_of_silent silent) (ne_prepared_of_silent silent)

theorem succeeds {job : JobRef} {task : Task} {environment : List Variable}
    (beside : Meanwhile m.state t) :
    Intact a (begun ++ [task]) (m.after (.runTask job task environment) .succeeded t) := by
  have runs : taskRuns (m.after (.runTask job task environment) .succeeded t).past =
      taskRuns m.past ++ [⟨job, task, environment, .succeeded⟩] := taskRuns_cons
  constructor
  · exact beside.armed.trans h.armed
  · rw [runs, List.map_append, h.tasks]
    rfl
  · rw [runs]
    intro r ran
    rcases List.mem_append.1 ran with before | now
    · exact h.succeeded r before
    · rw [List.mem_singleton.1 now]
  · exact h.kept_after (not_isRefusal_of_silent rfl)
  · exact h.made_after (ne_prepared_of_silent rfl)

/-! How a job ends. -/

theorem refused {info : Snapshot} {state : JobState} {answer : Except CallError ReportOutcome}
    (early : state = .preparing ∨ state = .building)
    (final : (Attempt.mk info answer).isFinal = true) :
    Concluded a (m.after (.call (.reportCurrentStatus info a.job state)) answer t).past none := by
  refine concluded_none ?_ ?_ (not_finished_of_other rfl)
  · exact ⟨_, List.mem_cons_self, info, state, answer, early, rfl, final⟩
  · rintro (unmade | ⟨r, code, last, failed⟩)
    · refine h.made_after (x := .call (.reportCurrentStatus info a.job state)) ?_ unmade
      intro same
      exact absurd (congrArg sign? same) nofun
    · rw [taskRuns_after rfl] at last
      cases (h.succeeded r (List.mem_of_getLast? last)).symm.trans failed

theorem unprepared :
    Concluded a (m.after (.prepareDirectory a.job) false t).past (some .failed) := by
  refine concluded_failed (h.kept_after ?_) (.inl List.mem_cons_self) (not_finished_of_other rfl)
  rintro ⟨info, state, answer, -, same, -⟩
  exact absurd (congrArg sign? same) nofun

/-- The look ahead of a task, or after the last one, finds that the job is to stop. -/
theorem stopped (beside : Meanwhile m.state t) :
    Concluded a (m.after (.note fun s => (s.isTripped, s)) true t).past (some .cancelled) := by
  have looked := h.unnoticed (x := .note fun s => (s.isTripped, s)) (b := true) beside rfl rfl
  refine concluded_cancelled looked.kept looked.not_broken fun finished => ?_
  have same : checked true = checked false := Option.some.inj finished.checked
  simp [checked] at same

theorem passed (beside : Meanwhile m.state t) (all : begun = a.plan.tasks) :
    Concluded a (m.after (.note fun s => (s.isTripped, s)) false t).past (some .passed) := by
  have looked := h.unnoticed (x := .note fun s => (s.isTripped, s)) (b := false) beside rfl rfl
  have finished : Finished a (m.after (.note fun s => (s.isTripped, s)) false t).past :=
    ⟨looked.tasks.trans all, looked.succeeded, rfl⟩
  exact concluded_passed looked.kept looked.not_broken finished

variable {job : JobRef} {task : Task} {environment : List Variable}

theorem failed {code : Option Int32} :
    Concluded a (m.after (.runTask job task environment) (.failed code) t).past
      (some .failed) := by
  have last : (taskRuns (m.after (.runTask job task environment) (.failed code) t).past).getLast? =
      some ⟨job, task, environment, .failed code⟩ :=
    (congrArg _ taskRuns_cons).trans List.getLast?_concat
  have kept := h.kept_after (x := .runTask job task environment) (b := .failed code) (t := t)
    (not_isRefusal_of_silent rfl)
  exact concluded_failed kept (.inr ⟨_, code, last, rfl⟩) (not_finished_of_other rfl)

theorem killed :
    Concluded a (m.after (.runTask job task environment) .cancelled t).past
      (some .cancelled) := by
  have last : (taskRuns (m.after (.runTask job task environment) .cancelled t).past).getLast? =
      some ⟨job, task, environment, .cancelled⟩ :=
    (congrArg _ taskRuns_cons).trans List.getLast?_concat
  refine concluded_cancelled (h.kept_after (not_isRefusal_of_silent rfl)) ?_
    (not_finished_of_other rfl)
  rintro (unmade | ⟨r, code, last', failed⟩)
  · exact h.made_after (ne_prepared_of_silent rfl) unmade
  · obtain rfl := Option.some.inj (last.symm.trans last')
    cases failed

end Intact

/-- A job that can go on: it is intact, and the agent was not told to leave it alone. -/
structure Underway (a : Assignment) (begun : List Task) (m : Moment) : Prop
    extends Intact a begun m where
  free : Undisturbed m.past

namespace Underway

variable {a : Assignment} {begun : List Task} {m : Moment} {t : WorkerState}
  (h : Underway a begun m)
include h

theorem looked {α : Type} {f : WorkerState → α} {v : α}
    (step : Step α m.state (.note fun s => (f s, s)) v t) :
    Underway a begun (m.after (.note fun s => (f s, s)) v t) :=
  ⟨h.unnoticed (step_iff.1 step).2 rfl rfl, h.free.after nofun⟩

theorem called {α : Type} {c : Call α} {answer : Except CallError α}
    (step : Step _ m.state (.call c) answer t) (silent : sign? ⟨_, .call c, answer⟩ = none)
    (other : answer? ⟨_, .call c, answer⟩ ≠ some (.ok true)) :
    Underway a begun (m.after (.call c) answer t) :=
  ⟨h.unnoticed (step_iff.1 step) rfl silent, h.free.after other⟩

theorem told {info : Snapshot} {job : JobRef} {state : JobState}
    {answer : Except CallError ReportOutcome} (beside : Meanwhile m.state t)
    (further : (Attempt.mk info answer).isFinal = false) :
    Underway a begun (m.after (.call (.reportCurrentStatus info job state)) answer t) := by
  refine ⟨h.after beside rfl ?_ fun same => ?_, h.free.after nofun⟩
  · rintro ⟨info', state', answer', -, same, final⟩
    have signs : some (Sign.reported job info (.status state) answer) =
        some (.reported a.job info' (.status state') answer') := congrArg sign? same
    injection signs with signs
    injection signs with _ said _ answered
    rw [said, answered] at further
    exact Bool.false_ne_true (further.symm.trans final)
  · exact absurd (congrArg sign? same) nofun

theorem directory (beside : Meanwhile m.state t) :
    Underway a begun (m.after (.prepareDirectory a.job) true t) := by
  refine ⟨h.after beside rfl ?_ fun same => ?_, h.free.after nofun⟩
  · rintro ⟨info, state, answer, -, same, -⟩
    exact absurd (congrArg sign? same) nofun
  · exact absurd (congrArg sign? same) nofun

theorem ran {job : JobRef} {task : Task} {environment : List Variable}
    (step : Step _ m.state (.runTask job task environment) .succeeded t) :
    Underway a (begun ++ [task]) (m.after (.runTask job task environment) .succeeded t) :=
  ⟨h.succeeds (step_iff.1 step).1, h.free.after nofun⟩

theorem starts {task : Task} {rest : List Task} (plan : begun ++ task :: rest = a.plan.tasks)
    (checked : ∃ answer earlier, m.past = checked false :: asked a.job answer :: earlier) :
    Started a m.past a.job task a.plan.environment where
  own := rfl
  given := rfl
  next := by
    rw [h.tasks, ← plan]
    exact ⟨rest, (List.append_cons ..).symm⟩
  succeeded := h.succeeded
  free := h.free
  checked := checked

/-- A new cookie or none: it is the same for the job. -/
theorem recover (e : CallError) :
    Program.Safe Step (StartsOnly a) (fun m _ => Underway a begun m) (recover e) m := by
  unfold Worker.recover
  split
  · refine .bind (.bind (.ask trivial fun info t looked => ?_))
    have known := h.looked looked
    refine .bind (.ask trivial fun answer u called => ?_)
    have asked := known.called called rfl nofun
    cases answer with
    | error e => exact asked
    | ok cookie =>
      refine .bind (.ask trivial fun _ v noted => ?_)
      have beside := (step_iff.1 noted).2
      exact ⟨asked.unnoticed (.cookie cookie beside) rfl rfl, asked.free.after nofun⟩
  · exact h

theorem announce {state : JobState} (early : state = .preparing ∨ state = .building) :
    Program.Safe Step (StartsOnly a)
      (fun m further => if further then Underway a begun m else Concluded a m.past none)
      (announce a.job state) m := by
  refine .bind (.ask trivial fun info t looked => ?_)
  have known := h.looked looked
  refine .bind (.ask trivial fun answer u called => ?_)
  have beside := step_iff.1 called
  rcases answer with e | outcome
  · dsimp only
    by_cases foreign : e.kind? = some .agentMismatch
    · have final : (Attempt.mk info (.error e)).isFinal = true := decide_eq_true foreign
      rw [if_pos foreign]
      exact known.refused early final
    · have further : (Attempt.mk info (.error e)).isFinal = false := decide_eq_false foreign
      rw [if_neg foreign]
      exact .bind ((known.told beside further).recover e)
  · cases outcome with
    | rejected reason => exact known.refused early rfl
    | accepted | duplicate => exact known.told beside rfl

/-- An agent that is told to leave its job alone stops it. -/
theorem checkIgnored :
    Program.Safe Step (StartsOnly a)
      (fun m' _ => Underway a begun m' ∧ (∃ answer, m'.past = asked a.job answer :: m.past) ∨
        Intact a begun m' ∧ m'.state.isTripped = true)
      (checkIgnored a.job) m := by
  refine .bind (.ask trivial fun answer t called => ?_)
  rcases answer with e | ignored
  · exact .inl ⟨h.called called rfl nofun, _, rfl⟩
  · cases ignored with
    | false => exact .inl ⟨h.called called rfl nofun, _, rfl⟩
    | true =>
      have told : Intact a begun (m.after (.call (.isIgnored a.job)) (.ok true) t) :=
        h.unnoticed (step_iff.1 called) rfl rfl
      refine .ask trivial fun _ u noted => ?_
      have after := (step_iff.1 noted).2
      have tripped := after.isTripped (isTripped_trip told.armed)
      exact .inr ⟨told.unnoticed (.trip after) rfl rfl, tripped⟩

theorem runTasks {tasks : List Task} (plan : begun ++ tasks = a.plan.tasks) :
    Program.Safe Step (StartsOnly a) (fun m result => Concluded a m.past (some result))
      (runTasks a.job a.plan.environment tasks) m := by
  induction tasks generalizing begun m with
  | nil =>
    refine .bind (.ask trivial fun tripped t looked => ?_)
    have beside := (step_iff.1 looked).2
    cases tripped with
    | true => exact h.stopped beside
    | false => exact h.passed beside ((List.append_nil _).symm.trans plan)
  | cons task rest ih =>
    refine .bind (h.checkIgnored.mono (fun _ _ _ here => here) fun m' _ told => ?_)
    refine .bind (.ask trivial fun tripped t looked => ?_)
    obtain ⟨seen, beside⟩ := step_iff.1 looked
    cases tripped with
    | true =>
      have intact : Intact a begun m' := told.elim (fun h => h.1.toIntact) And.left
      exact intact.stopped beside
    | false =>
      obtain ⟨underway, answer, past⟩ :=
        told.resolve_right fun h => Bool.false_ne_true (seen.trans h.2)
      have checked := underway.looked looked
      have now := congrArg (Worker.checked false :: ·) past
      have started := checked.starts plan ⟨answer, m.past, now⟩
      refine .bind (.ask started fun outcome u ran => ?_)
      cases outcome with
      | succeeded =>
        exact ih (checked.ran ran) ((List.append_assoc ..).trans plan)
      | failed code => exact checked.failed
      | cancelled => exact checked.killed

end Underway

theorem execute_underway {a : Assignment} {s : WorkerState} (armed : s.stopped.isSome = true) :
    Program.Safe Step (StartsOnly a) (fun m result => Concluded a m.past result) (execute a)
      ⟨[], s⟩ := by
  have start : Underway a [] ⟨[], s⟩ := by
    refine ⟨⟨armed, rfl, nofun, ?_, List.not_mem_nil⟩, fun _ => List.not_mem_nil⟩
    rintro ⟨deed, told, -⟩
    exact absurd told List.not_mem_nil
  refine .bind ((start.announce (.inl rfl)).mono (fun _ _ _ here => here) fun m further told => ?_)
  cases further with
  | false => exact told
  | true =>
    have announced : Underway a [] m := told
    refine .bind (.ask trivial fun made t step => ?_)
    have beside := step_iff.1 step
    cases made with
    | false => exact announced.unprepared
    | true =>
      have ready := announced.directory beside
      refine .bind ((ready.announce (.inr rfl)).mono (fun _ _ _ here => here) ?_)
      intro m further told
      cases further with
      | false => exact told
      | true =>
        have building : Underway a [] m := told
        exact .bind (building.runTasks rfl)

/-- A script that is left comes to its end, whatever is answered from now on. -/
theorem exists_end {α : Type} (p : Script α) (m : Moment) :
    ∃ m' v, Program.Reaches Step m p m' (.done v) := by
  induction p generalizing m with
  | done v => exact ⟨m, v, .start⟩
  | act x next ih =>
    obtain ⟨b, t, step⟩ := exists_step _ m.state x
    obtain ⟨m', v, rest⟩ := ih b (m.after x b t)
    exact ⟨m', v, (Program.Reaches.act .start step).trans rest⟩

/--
Whatever is answered to an agent that executes a job, however its tasks end, and whenever the job is
to stop. Its tasks are started in the order of the plan, each upon what `Started` says; it comes to
an end, and to the result that `Concluded` says.
-/
theorem starts_tasks_in_order {a : Assignment} {s : WorkerState} {m : Moment}
    {rest : Script (Option JobResult)} (armed : s.stopped.isSome = true)
    (reached : Program.Reaches Step ⟨[], s⟩ (execute a) m rest) :
    (∀ job task environment next, rest = .act (.runTask job task environment) next →
      Started a m.past job task environment) ∧
    (∀ result, rest = .done result → Concluded a m.past result) ∧
    ∃ m' result, Program.Reaches Step m rest m' (.done result) := by
  have safe := (execute_underway armed).reached reached
  refine ⟨?_, ?_, exists_end rest m⟩
  · rintro job task environment next rfl
    exact safe.1
  · rintro result rfl
    exact safe

/-- A job that is to stop while its first task runs: that succeeds, and the second never starts. -/
theorem starts_tasks_in_order_tripped :
    let info : Snapshot := .fresh ⟨"host", "10.0.0.1", "u"⟩ "/srv"
    let build : Task := ⟨"make", [], none⟩
    let a : Assignment := ⟨⟨"p", "l", "s", "j", ⟨1⟩⟩, ⟨∅, [build, build], [], ""⟩⟩
    ∃ m : Moment, Program.Reaches Step ⟨[], (WorkerState.start info).arm⟩ (execute a) m
        (.done (some .cancelled)) ∧
      (taskRuns m.past).map TaskRun.outcome = [.succeeded] ∧
      Concluded a m.past (some .cancelled) := by
  intro info build a
  let At := Program.Reaches Step ⟨[], (WorkerState.start info).arm⟩ (execute a)
  have looked : At _ _ := .act .start (.note _ .nothing)
  have preparing : At _ _ := .act (b := .ok .accepted) looked (.call _ _ .nothing)
  have made : At _ _ := .act (b := true) preparing (.prepareDirectory _ _ .nothing)
  have looked' : At _ _ := .act made (.note _ .nothing)
  have building : At _ _ := .act (b := .ok .accepted) looked' (.call _ _ .nothing)
  have asked : At _ _ := .act (b := .ok false) building (.call _ _ .nothing)
  have checked : At _ _ := .act asked (.note _ .nothing)
  have ran : At _ _ :=
    .act (b := .succeeded) checked (.runTask _ _ _ _ (.trip .nothing) nofun)
  have asked' : At _ _ := .act (b := .ok false) ran (.call _ _ .nothing)
  have checked' : At _ _ := .act asked' (.note _ .nothing)
  have reached : At _ (.done (some .cancelled)) := checked'
  obtain ⟨-, concluded, -⟩ := starts_tasks_in_order rfl reached
  exact ⟨_, reached, rfl, concluded _ rfl⟩

end BuildDispatch.Worker
