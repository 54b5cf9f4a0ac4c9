import BuildDispatch.Proofs.Scheduler.Run
import Mathlib.Logic.Function.Iterate

/-!
The steps of a trigger, between which others may go theirs: it is let in, it looks at the latest
cause, it makes its jobs one by one, saves its cause and leaves. One inversion lemma says what a
step may do (`Scheduler.advance_spec`), and the steps of a trigger that runs alone come to the same
as the whole of it (`Scheduler.iterate_step_trigger`).
-/
namespace BuildDispatch

/-- How far a trigger has come. -/
inductive Progress where
  | asked
  | entered (p : Pipeline)
  /-- The cause lists the jobs that are made, and these are left to make. -/
  | making (c : BuildCause) (stage : Stage) (left : List JobTemplate)
  /-- The answer is known, but the trigger is still in flight. -/
  | concluding (outcome : ScheduleOutcome)
  | answered (outcome : ScheduleOutcome)

def BuildCause.outcome (c : BuildCause) : ScheduleOutcome := .scheduled c.pipeline c.label c.jobs

namespace Progress

def isInside : Progress → Bool
  | asked | answered _ => false
  | _ => true

def cause? : Progress → Option BuildCause
  | making c _ _ => some c
  | _ => none

def saving? : Progress → Option BuildCause
  | making c _ [] => some c
  | _ => none

theorem saving?_eq_some {p : Progress} {c : BuildCause} :
    p.saving? = some c ↔ ∃ stage, p = .making c stage [] := by
  constructor
  · intro h
    unfold saving? at h
    split at h
    case h_1 stage =>
      cases h
      exact ⟨stage, rfl⟩
    case h_2 => cases h
  · rintro ⟨stage, rfl⟩
    rfl

theorem cause?_of_saving? {p : Progress} {c : BuildCause} (h : p.saving? = some c) :
    p.cause? = some c := by
  obtain ⟨stage, rfl⟩ := saving?_eq_some.1 h
  rfl

def scheduled? : Progress → Option ScheduleOutcome
  | concluding outcome | answered outcome => if outcome.isScheduled then some outcome else none
  | _ => none

/-- What a trigger does on its way is about its own pipeline. -/
def About (pipeline : String) : Progress → Prop
  | entered p => p.name = pipeline
  | making c _ _ => c.pipeline = pipeline
  | _ => True

end Progress

namespace Scheduler

def advance (s : Scheduler) (t : Trigger) (now : Timestamp) : Progress → Progress × Scheduler
  | .asked =>
    match s.enter t with
    | .error outcome => (.answered outcome, s)
    | .ok (p, s) => (.entered p, s)
  | .entered p =>
    match t.decide p s.permissions (s.latest? t.pipeline) now with
    | .error outcome => (.concluding outcome, s)
    | .ok (c, stage) => (.making c stage stage.jobs, s)
  | .making c stage (j :: left) =>
    let (id, s) := s.createJob c stage.name j now
    (.making { c with jobs := c.jobs ++ [id] } stage left, s)
  | .making c _ [] => (.concluding c.outcome, s.saveCause c)
  | .concluding outcome => (.answered outcome, s.leave t)
  | .answered outcome => (.answered outcome, s)

theorem not_scheduled_of_enter {s : Scheduler} {t : Trigger} {outcome : ScheduleOutcome}
    (h : s.enter t = .error outcome) : outcome.isScheduled = false := by
  unfold enter at h
  split at h
  · cases h
    rfl
  · split_ifs at h
    cases h
    rfl

/-- What a step may do. -/
inductive Advance (s : Scheduler) (t : Trigger) (now : Timestamp) :
    Progress → Progress → Scheduler → Prop where
  | turnedAway {outcome : ScheduleOutcome} (closed : s.enter t = .error outcome) :
    Advance s t now .asked (.answered outcome) s
  | enters {p : Pipeline} (found : s.config.pipeline? t.pipeline = some p)
    (free : s.inFlight.contains t.pipeline = false) : Advance s t now .asked (.entered p)
      { s with inFlight := s.inFlight.insert t.pipeline () }
  | refused {p : Pipeline} {outcome : ScheduleOutcome}
    (decided : t.decide p s.permissions (s.latest? t.pipeline) now = .error outcome) :
    Advance s t now (.entered p) (.concluding outcome) s
  | starts {p : Pipeline} {c : BuildCause} {stage : Stage}
    (decided : t.decide p s.permissions (s.latest? t.pipeline) now = .ok (c, stage))
    (cause : c = t.cause p (s.latest? t.pipeline) now) :
    Advance s t now (.entered p) (.making c stage stage.jobs) s
  | makes {c : BuildCause} {stage : Stage} {j : JobTemplate} {left : List JobTemplate} :
    Advance s t now (.making c stage (j :: left))
      (.making { c with jobs := c.jobs ++ [s.board.nextId] } stage left)
      (s.createJob c stage.name j now).2
  | saves {c : BuildCause} {stage : Stage} :
    Advance s t now (.making c stage []) (.concluding c.outcome) (s.saveCause c)
  | leaves {outcome : ScheduleOutcome} :
    Advance s t now (.concluding outcome) (.answered outcome) (s.leave t)
  | rests {outcome : ScheduleOutcome} : Advance s t now (.answered outcome) (.answered outcome) s

theorem advance_spec (s : Scheduler) (t : Trigger) (now : Timestamp) (p : Progress) :
    s.Advance t now p (s.advance t now p).1 (s.advance t now p).2 := by
  cases p with
  | asked =>
    unfold advance
    cases he : s.enter t with
    | error outcome => exact .turnedAway he
    | ok entered =>
      unfold enter at he
      split at he
      case h_1 => cases he
      case h_2 p found =>
        split_ifs at he with free
        cases he
        exact .enters found (by simpa using free)
  | entered p =>
    unfold advance
    dsimp only
    cases hd : t.decide p s.permissions (s.latest? t.pipeline) now with
    | error outcome => exact .refused hd
    | ok run =>
      obtain ⟨c, stage⟩ := run
      obtain ⟨-, -, -, -, cause⟩ := Trigger.decide_eq_ok_iff.1 hd
      exact .starts hd cause
  | making c stage left =>
    cases left with
    | nil => exact .saves
    | cons j left => exact .makes
  | concluding outcome => exact .leaves
  | answered outcome => exact .rests

namespace Advance

variable {s s' : Scheduler} {t : Trigger} {now : Timestamp} {p p' : Progress}

theorem inFlight_cases (e : s.Advance t now p p' s') :
    p'.isInside = p.isInside ∧ s'.inFlight = s.inFlight ∨
    p.isInside = false ∧ p'.isInside = true ∧ s.inFlight.contains t.pipeline = false ∧
      s'.inFlight = s.inFlight.insert t.pipeline () ∨
    p.isInside = true ∧ p'.isInside = false ∧ s'.inFlight = s.inFlight.erase t.pipeline := by
  cases e with
  | enters _ free => exact .inr (.inl ⟨rfl, rfl, free, rfl⟩)
  | leaves => exact .inr (.inr ⟨rfl, rfl, rfl⟩)
  | _ => exact .inl ⟨rfl, rfl⟩

theorem config_eq (e : s.Advance t now p p' s') : s'.config = s.config := by
  cases e <;> rfl

/-- Only a trigger of a pipeline that is configured is let in. -/
theorem found (e : s.Advance t now p p' s') (inside : p'.isInside = true) :
    p.isInside = true ∨ (s.config.pipeline? t.pipeline).isSome = true := by
  cases e with
  | enters found => exact .inr (by rw [found]; rfl)
  | turnedAway => cases inside
  | leaves => cases inside
  | rests => cases inside
  | _ => exact .inl rfl

theorem about (e : s.Advance t now p p' s') (h : p.About t.pipeline) : p'.About t.pipeline := by
  cases e with
  | enters found => exact (Config.of_pipeline? found).2
  | starts _ cause => rw [cause]; exact h
  | makes => exact h
  | _ => trivial

/-- Only a cause that is saved changes what is known of the runs. -/
theorem counter_eq (e : s.Advance t now p p' s') (unsaved : p.saving? = none) (q : String) :
    s'.board.repository.counter q = s.board.repository.counter q := by
  cases e with
  | saves => cases unsaved
  | _ => rfl

/-- The cause whose jobs are made counts one run more than there were. -/
theorem counts (e : s.Advance t now p p' s') (about : p.About t.pipeline)
    (h : ∀ c, p.cause? = some c → c.counter = s.board.repository.counter t.pipeline + 1)
    (c' : BuildCause) (making : p'.cause? = some c') :
    c'.counter = s.board.repository.counter t.pipeline + 1 := by
  cases e with
  | starts _ cause =>
    cases making
    rw [cause]
    exact t.counter_cause _ s.board.repository now
  | @makes c =>
    cases making
    exact h c rfl
  | _ => cases making

/-- An answer that a run was set off comes with its saved cause. -/
theorem scheduled?_eq (e : s.Advance t now p p' s') : p'.scheduled?.toList =
    p.scheduled?.toList ++ (p.saving?.map BuildCause.outcome).toList := by
  cases e with
  | turnedAway closed =>
    have unscheduled := not_scheduled_of_enter closed
    simp [Progress.scheduled?, Progress.saving?, unscheduled]
  | refused decided =>
    have unscheduled := Trigger.not_scheduled_of_decide decided
    simp [Progress.scheduled?, Progress.saving?, unscheduled]
  | makes => simp [Progress.scheduled?, Progress.saving?]
  | saves => rfl
  | _ => simp [Progress.scheduled?, Progress.saving?]

/-- A step makes one job of a run, or leaves the jobs as they are. -/
theorem makes_or_keeps (e : s.Advance t now p p' s') :
    (∃ c stage j left, p = .making c stage (j :: left) ∧
      p' = .making { c with jobs := c.jobs ++ [s.board.nextId] } stage left ∧
      s' = (s.createJob c stage.name j now).2) ∨
    s'.board.jobs = s.board.jobs ∧ s'.board.nextId = s.board.nextId ∧
      (∀ c, p.cause? = some c → p.saving? = some c) ∧ ∀ c, p'.cause? = some c → c.jobs = [] := by
  cases e with
  | makes => exact .inl ⟨_, _, _, _, rfl, rfl, rfl⟩
  | starts _ cause => exact .inr ⟨rfl, rfl, nofun, fun _ hc => by cases hc; rw [cause]; rfl⟩
  | saves => exact .inr ⟨rfl, rfl, fun _ hc => hc, nofun⟩
  | _ => exact .inr ⟨rfl, rfl, nofun, nofun⟩

end Advance

section Alone

variable (s : Scheduler) (t : Trigger) (now : Timestamp)

/-- A step of a trigger that nobody comes in between. -/
def step (x : Progress × Scheduler) : Progress × Scheduler := x.2.advance t now x.1

theorem createJobs_with_jobs (c : BuildCause) (ids : List BuildId) (stage : String)
    (templates : List JobTemplate) : s.createJobs { c with jobs := ids } stage now templates =
      s.createJobs c stage now templates := by
  induction templates generalizing s with
  | nil => rfl
  | cons j rest ih =>
    rw [createJobs_cons, createJobs_cons, ih]
    rfl

theorem iterate_step_making (c : BuildCause) (stage : Stage) (left : List JobTemplate) :
    (step t now)^[left.length] (.making c stage left, s) =
      (.making { c with jobs := c.jobs ++ (s.createJobs c stage.name now left).1 } stage [],
        (s.createJobs c stage.name now left).2) := by
  induction left generalizing s c with
  | nil =>
    change (Progress.making c stage [], s) = (.making { c with jobs := c.jobs ++ [] } stage [], s)
    rw [List.append_nil]
  | cons j rest ih =>
    rw [List.length_cons, Function.iterate_succ_apply]
    change (step t now)^[rest.length] (.making { c with jobs := c.jobs ++ [s.board.nextId] } stage
      rest, (s.createJob c stage.name j now).2) = _
    rw [ih, createJobs_with_jobs, createJobs_cons]
    dsimp only
    rw [List.append_assoc]
    rfl

theorem iterate_step_entered (p : Pipeline) : ∃ n, (step t now)^[n] (.entered p, s) =
    (.concluding (s.carryOut p t now).1, (s.carryOut p t now).2) := by
  unfold carryOut
  cases decided : t.decide p s.permissions (s.latest? t.pipeline) now with
  | error outcome =>
    refine ⟨1, ?_⟩
    change s.advance t now (.entered p) = _
    unfold advance
    dsimp only
    rw [decided]
  | ok run =>
    obtain ⟨c, stage⟩ := run
    have first : step t now (.entered p, s) = (.making c stage stage.jobs, s) := by
      change s.advance t now (.entered p) = _
      unfold advance
      dsimp only
      rw [decided]
    have none_made : c.jobs = [] := by
      obtain ⟨-, -, -, -, rfl⟩ := Trigger.decide_eq_ok_iff.1 decided
      rfl
    refine ⟨(stage.jobs.length + 1) + 1, ?_⟩
    rw [Function.iterate_succ_apply, Function.iterate_succ_apply', first, iterate_step_making,
      none_made]
    rfl

/-- The steps of a trigger that runs alone come to its answer. -/
theorem iterate_step_trigger : ∃ n, (step t now)^[n] (.asked, s) =
    (.answered (s.trigger t now).1, (s.trigger t now).2) := by
  unfold trigger
  cases entered : s.enter t with
  | error outcome =>
    refine ⟨1, ?_⟩
    change s.advance t now .asked = _
    unfold advance
    rw [entered]
  | ok x =>
    obtain ⟨p, inside⟩ := x
    have first : step t now (.asked, s) = (.entered p, inside) := by
      change s.advance t now .asked = _
      unfold advance
      rw [entered]
    obtain ⟨n, steps⟩ := inside.iterate_step_entered t now p
    refine ⟨(n + 1) + 1, ?_⟩
    rw [Function.iterate_succ_apply, Function.iterate_succ_apply', first, steps]
    rfl

end Alone

end Scheduler

end BuildDispatch
