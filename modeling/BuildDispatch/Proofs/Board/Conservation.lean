import BuildDispatch.Proofs.Board.Sound
import Mathlib.Algebra.Order.Group.Multiset

/-!
Conservation of work: of every job that was asked for, exactly one instance stands, however often it
is retired for a copy (`Board.standing_eq_requested`).
-/
namespace BuildDispatch

theorem Job.Moved.request_eq {j j' : Job} {now : Timestamp} {c : Board.Call} {a : Board.Answer}
    (m : j.Moved now c a j') : j'.request = j.request := by
  unfold Job.request
  rw [m.ref_eq, m.plan_eq]

theorem Job.Becomes.request_eq {j j' : Job} {now : Timestamp} {copy : BuildId} {c : Board.Call}
    {a : Board.Answer} (h : j.Becomes now copy c a j') : j'.request = j.request := by
  cases h with
  | moved m => exact m.request_eq
  | _ => rfl

namespace Board

/-- What a call asks for. -/
def Call.request? : Call → Option JobRequest
  | .create request => some request
  | _ => none

def requestsOf (jobs : Multiset Job) : Multiset JobRequest :=
  (jobs.filter fun j => j.state ≠ .rescheduled).map Job.request

def standing (b : Board) : Multiset JobRequest := requestsOf b.jobs.values

theorem requestsOf_cons (j : Job) (jobs : Multiset Job) :
    requestsOf (j ::ₘ jobs) = requestsOf {j} + requestsOf jobs := by
  unfold requestsOf
  rw [← Multiset.singleton_add, Multiset.filter_add, Multiset.map_add]

theorem requestsOf_standing {j : Job} (h : j.state ≠ .rescheduled) :
    requestsOf {j} = {j.request} := by
  unfold requestsOf
  rw [Multiset.filter_singleton, if_pos h, Multiset.map_singleton]

theorem requestsOf_retired {j : Job} (h : j.state = .rescheduled) : requestsOf {j} = 0 := by
  unfold requestsOf
  rw [Multiset.filter_singleton, if_neg (not_not_intro h)]
  rfl

theorem requestsOf_insert_of_fresh {jobs : Table BuildId Job} {id : BuildId} (j : Job)
    (h : jobs.get? id = none) :
    requestsOf (jobs.insert id j).values = requestsOf {j} + requestsOf jobs.values := by
  have hp := Multiset.coe_eq_coe.2 (Table.values_insert_of_fresh j h)
  rw [hp, ← Multiset.cons_coe, requestsOf_cons]

theorem requestsOf_insert_of_bound {jobs : Table BuildId Job} {id : BuildId} {old : Job} (j : Job)
    (h : jobs.get? id = some old) :
    requestsOf {old} + requestsOf (jobs.insert id j).values =
      requestsOf {j} + requestsOf jobs.values := by
  have hp := Multiset.coe_eq_coe.2 (Table.values_insert_of_bound j h)
  have hr := congrArg requestsOf hp
  rwa [← Multiset.cons_coe, ← Multiset.cons_coe, requestsOf_cons, requestsOf_cons] at hr

theorem not_rescheduled_of_running {j : Job} (h : j.isTerminal = false) :
    j.state ≠ .rescheduled := by
  intro hs
  rw [Job.isTerminal, hs] at h
  cases h

theorem standing_take_commit {b : Board} {j j' : Job} (c : Call) (id : BuildId)
    (stored : b.get? j'.buildId = some j) :
    requestsOf {j} + ((b.take c id).commit j').standing = requestsOf {j'} + b.standing :=
  requestsOf_insert_of_bound j' stored

theorem standing_insertScheduled {b : Board} (ref : JobRef) (plan : Plan) (now : Timestamp)
    (fresh : b.get? b.nextId = none) : (b.insertScheduled ref plan now).2.standing =
      {⟨ref.pipeline, ref.label, ref.stage, ref.job, plan⟩} + b.standing := by
  have hi := requestsOf_insert_of_fresh
    (.scheduled { ref with buildId := b.nextId } plan now) fresh
  rw [requestsOf_standing (by simp [Job.scheduled])] at hi
  exact hi

/-- A copy stands in the place of the job that it is made of. -/
theorem standing_replace {b : Board} {j : Job} (now : Timestamp) (fresh : b.get? b.nextId = none)
    (stored : b.get? j.buildId = some j) (running : j.isTerminal = false) :
    (b.replace j now).standing = b.standing := by
  let retired := (b.leaveWaiting j.buildId).commit (j.enter .rescheduled now)
  have hr : {j.request} + retired.standing = b.standing := by
    have hi := requestsOf_insert_of_bound (j.enter .rescheduled now) stored
    rw [requestsOf_standing (not_rescheduled_of_running running), requestsOf_retired rfl,
      zero_add] at hi
    exact hi
  have hne : b.nextId ≠ j.buildId := by
    intro he
    rw [he, stored] at fresh
    cases fresh
  have hf : retired.get? retired.nextId = none := by
    change ((b.leaveWaiting j.buildId).commit (j.enter .rescheduled now)).get? b.nextId = none
    rw [get?_commit]
    exact (if_neg hne).trans fresh
  have hc := standing_insertScheduled j.ref j.plan now hf
  exact hc.trans hr

theorem Effect.standing_eq {b b' : Board} {now : Timestamp} {c : Call} {a : Answer}
    (e : b.Effect now c a b') (fresh : b.get? b.nextId = none) :
    b'.standing = b.standing + (c.request?.toList : Multiset JobRequest) := by
  cases e with
  | still _ asked =>
    have hc : c.request? = none := by
      cases c with
      | create r => exact absurd rfl (asked r)
      | _ => rfl
    rw [hc]
    exact (add_zero _).symm
  | @moved _ j j' stored m =>
    have hc : c.request? = none := by cases m <;> rfl
    have hs := standing_take_commit c j.buildId (m.buildId_eq ▸ stored)
    rw [requestsOf_standing (not_rescheduled_of_running m.running),
      requestsOf_standing m.not_rescheduled, m.request_eq] at hs
    rw [hc]
    exact (add_left_cancel hs).trans (add_zero _).symm
  | added asked =>
    subst asked
    exact (standing_insertScheduled _ _ now fresh).trans (add_comm _ _)
  | @replaced _ j stored running r =>
    have hc : c.request? = none := by cases r <;> rfl
    rw [hc, standing_replace now fresh stored running]
    exact (add_zero _).symm

/-- The jobs that stand, however often they were retired, are those that were asked for. -/
theorem standing_eq_requested (steps : List (Step Call))
    (few : (made (session steps).log).length < 2 ^ 64 - 1) :
    ((((session steps).state.jobs.values : Multiset Job).filter fun j =>
        j.state ≠ .rescheduled).map Job.request) =
      (steps.filterMap (·.call.request?) : Multiset JobRequest) := by
  have hs : (session steps).state.standing =
      ((session steps).log.filterMap (·.call.request?) : Multiset JobRequest) := by
    refine session_induction (P := fun s =>
      s.state.standing = (s.log.filterMap (·.call.request?) : Multiset JobRequest)) rfl ?_ steps few
    intro s x hc hn ih
    have e := hc.perform_effect x.now x.call
    rw [state_call, e.standing_eq hn.fresh, ih, Session.log_call, List.filterMap_append,
      ← Multiset.coe_add]
    cases h : x.call.request? <;> simp [h]
  have hl : (session steps).log.map (·.call) = steps.map (·.call) :=
    Session.map_log_run steps Step.call empty
  have hm := congrArg (List.filterMap Call.request?) hl
  rw [List.filterMap_map, List.filterMap_map] at hm
  exact hs.trans (congrArg _ hm)

theorem standing_eq_requested_relay :
    (made (session relay).log).length < 2 ^ 64 - 1 ∧
      ((((session relay).state.jobs.values : Multiset Job).filter fun j =>
          j.state ≠ .rescheduled).map Job.request) =
        {⟨"site", "1", "build", "compile", .empty⟩, ⟨"site", "1", "build", "test", .empty⟩} :=
  ⟨by decide, standing_eq_requested relay (by decide)⟩

end Board

end BuildDispatch
