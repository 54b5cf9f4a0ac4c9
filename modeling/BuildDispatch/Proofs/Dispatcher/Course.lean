import BuildDispatch.Proofs.Board.Cancellation
import BuildDispatch.Proofs.Dispatcher.Trigger

/-!
The course of a job that has begun. By a call it stays as it is, is reported on by its agent, is
marked as cancelled or retired for an operator, or is given up by its agent (`Dispatcher.fares`).
-/
namespace BuildDispatch

namespace Dispatcher

def Cancels (e : Entry Call Reply) (id : BuildId) : Prop :=
  e.call = .cancelJob id ∧ e.answer = .cancelled (.ok true)

def Retires (e : Entry Call Reply) (id : BuildId) : Prop :=
  e.call = .rescheduleJob id ∧ ∃ copy, e.answer = .rescheduled (.ok (some copy))

instance (e : Entry Call Reply) (id : BuildId) : Decidable (Cancels e id) :=
  have : Decidable (e.answer = .cancelled (.ok true)) :=
    match e.answer with
    | .cancelled (.ok true) => isTrue rfl
    | .cancelled (.ok false) | .cancelled (.error _) | .instruction _ | .work _ | .heard _
    | .cookie _ | .scheduled _ | .rescheduled _ | .approved _ | .disabled _ | .lost _ =>
      isFalse nofun
  inferInstanceAs (Decidable (_ ∧ _))

instance (e : Entry Call Reply) (id : BuildId) : Decidable (Retires e id) :=
  have : Decidable (∃ copy, e.answer = .rescheduled (.ok (some copy))) :=
    match e.answer with
    | .rescheduled (.ok (some copy)) => isTrue ⟨copy, rfl⟩
    | .rescheduled (.ok none) | .rescheduled (.error _) | .instruction _ | .work _ | .heard _
    | .cookie _ | .scheduled _ | .cancelled _ | .approved _ | .disabled _ | .lost _ =>
      isFalse fun ⟨_, h⟩ => nomatch h
  inferInstanceAs (Decidable (_ ∧ _))

end Dispatcher

open Dispatcher (Cancels Retires)

/-- What becomes of a job that has begun, by a call and its answer. -/
inductive Job.Fares (j : Job) (e : Entry Dispatcher.Call Dispatcher.Reply) : Job → Prop where
  | same (uncancelled : ¬Cancels e j.buildId) (unretired : ¬Retires e j.buildId) : Fares j e j
  | heard {info : Snapshot} {ref : JobRef} {r : Report} {j' : Job}
    (said : e.call = .report info ref r) (about : ref.buildId = j.buildId)
    (own : j.agent = some info.uuid) (heard : j.Heard e.now r j') : Fares j e j'
  | marked (cancels : Cancels e j.buildId) (running : j.isTerminal = false)
    (new : j.result ≠ .cancelled) : Fares j e (j.conclude .cancelled)
  | retired (retires : Retires e j.buildId) (running : j.isTerminal = false) :
    Fares j e (j.enter .rescheduled e.now)
  | abandoned {info : Snapshot} (asked : e.call = .getWork info) (own : j.agent = some info.uuid)
    (running : j.isTerminal = false) :
    Fares j e (j.enter (if j.result = .cancelled then .completed else .rescheduled) e.now)

namespace Dispatcher

variable {d : Dispatcher} {config : Config}

theorem ofBoard_eq_ok_iff {α : Type} {x : Except JobError α × Board} {a : α} :
    (d.ofBoard x).1 = .ok a ↔ x.1 = .ok a := by
  obtain ⟨error | b, board⟩ := x
  · exact ⟨nofun, nofun⟩
  · exact ⟨fun h => congrArg Except.ok (Except.ok.inj h),
      fun h => congrArg Except.ok (Except.ok.inj h)⟩

/-- A call that asks nothing of the board, and sets no run off, leaves the board alone. -/
theorem Tends.board_eq {d' : Dispatcher} {now : Timestamp} {c : Call} (tends : d.Tends now c d')
    (silent : c.onBoard = []) : d'.board = d.board := by
  cases tends with
  | still same => exact congrArg Scheduler.board same
  | called after =>
    rw [silent] at after
    exact congrArg Scheduler.board after

/-- What the dispatcher of a session keeps. -/
structure Orderly (config : Config) (d : Dispatcher) : Prop where
  tended : d.board.Tended
  idle : d.scheduler.Idle config

theorem orderly_session (config : Config) (payload : PayloadStore) (steps : List (Step Call)) :
    Orderly config (session config payload steps).state :=
  ⟨(tended_session config payload steps).board, idle_session config payload steps⟩

theorem Orderly.perform (orderly : Orderly config d) (now : Timestamp) (c : Call) :
    Orderly config (d.perform now c).2 :=
  ⟨(tended_perform orderly.tended now c).1, idle_perform orderly.idle now c⟩

theorem Orderly.size_le (orderly : Orderly config d) (now : Timestamp) (c : Call) :
    d.board.jobs.size ≤ (d.perform now c).2.board.jobs.size := by
  rcases launches_or_tends orderly.idle now c with ⟨_, _, _, _, b', -, launches, hp⟩ | ⟨-, tends⟩
  · rw [hp]
    exact launches.launched.size
  · exact tends.keeps (P := fun b => d.board.jobs.size ≤ b.jobs.size) orderly.tended
      (fun _ _ _ e le => le.trans e.size_le) le_rfl

section Fares

variable {now : Timestamp} {id : BuildId} {j : Job} (coherent : d.board.Coherent)
  (numbered : d.board.Numbered) (stored : d.board.get? id = some j) (begun : j.state ≠ .scheduled)
include coherent numbered stored begun

theorem fares_cancel (id' : BuildId) :
    ∃ j', (d.perform now (.cancelJob id')).2.board.get? id = some j' ∧
      j.Fares ⟨⟨.cancelJob id', now⟩, (d.perform now (.cancelJob id')).1⟩ j' := by
  have hid := coherent.keyed stored
  subst hid
  have board : (d.perform now (.cancelJob id')).2.board = (d.board.cancel id' now).2 :=
    board_ofBoard d _
  have e := coherent.cancel_effect now id'
  obtain ⟨j', stored', becomes⟩ := e.becomes stored (e.made?_ne numbered stored)
  refine ⟨j', board ▸ stored', ?_⟩
  generalize answered : (d.board.cancel id' now).1 = answer at becomes
  cases becomes with
  | same =>
    refine .same ?_ fun retires => nomatch retires.1
    rintro ⟨called, cancelled⟩
    cases called
    -- The answer says that the job was cancelled just now, but it is what it was.
    have yes := ofBoard_eq_ok_iff.1 (Reply.cancelled.inj cancelled)
    obtain ⟨k, stored'', marked⟩ := Board.cancelled_of_cancel coherent yes
    rw [stored'] at stored''
    cases stored''
    obtain ⟨changed, told, unchanged, -⟩ := Board.cancel_of_stored stored (fun _ => begun) now
    have no : changed = false := unchanged.2 (.inr marked.result)
    rw [no, yes] at told
    cases told
  | moved m =>
    cases m with
    | dropped waits => exact absurd waits begun
    | marked _ running new =>
      exact .marked ⟨rfl, congrArg Reply.cancelled (ofBoard_eq_ok_iff.2 answered)⟩ running new
  | retired _ r => cases r

omit begun in
theorem fares_reschedule (id' : BuildId) :
    ∃ j', (d.perform now (.rescheduleJob id')).2.board.get? id = some j' ∧
      j.Fares ⟨⟨.rescheduleJob id', now⟩, (d.perform now (.rescheduleJob id')).1⟩ j' := by
  have hid := coherent.keyed stored
  subst hid
  have board : (d.perform now (.rescheduleJob id')).2.board = (d.board.reschedule id' now).2 :=
    board_ofBoard d _
  have e := coherent.reschedule_effect now id'
  obtain ⟨j', stored', becomes⟩ := e.becomes stored (e.made?_ne numbered stored)
  refine ⟨j', board ▸ stored', ?_⟩
  generalize answered : (d.board.reschedule id' now).1 = answer at becomes
  cases becomes with
  | same =>
    refine .same (fun cancels => nomatch cancels.1) ?_
    rintro ⟨called, copy, rescheduled⟩
    cases called
    -- The answer says that the job was retired just now, but it is what it was.
    have yes := ofBoard_eq_ok_iff.1 (Reply.rescheduled.inj rescheduled)
    rw [yes] at e
    obtain ⟨k, same, storedk, running, -, replaced⟩ := e.of_rescheduled
    rw [← Board.Call.reschedule.inj same] at storedk
    cases stored.symm.trans storedk
    rw [replaced, Board.get?_replace, if_neg (numbered.ne_nextId stored), if_pos rfl] at stored'
    have ended : j.enter .rescheduled now = j := Option.some.inj stored'
    rw [← ended] at running
    cases running
  | moved m => cases m
  | retired running r =>
    cases r with
    | asked =>
      exact .retired ⟨rfl, _, congrArg Reply.rescheduled (ofBoard_eq_ok_iff.2 answered)⟩ running

omit begun in
theorem fares_report (info : Snapshot) (ref : JobRef) (r : Report) :
    ∃ j', (d.perform now (.report info ref r)).2.board.get? id = some j' ∧
      j.Fares ⟨⟨.report info ref r, now⟩, (d.perform now (.report info ref r)).1⟩ j' := by
  have same : j.Fares ⟨⟨.report info ref r, now⟩, (d.perform now (.report info ref r)).1⟩ j :=
    .same (fun cancels => nomatch cancels.1) fun retires => nomatch retires.1
  have tends := d.tends_perform now (c := .report info ref r) (by simp)
  cases tends with
  | still unchanged =>
    have board : (d.perform now (.report info ref r)).2.board = d.board :=
      congrArg Scheduler.board unchanged
    exact ⟨j, board ▸ stored, same⟩
  | called after =>
    have hid := coherent.keyed stored
    subst hid
    have board : (d.perform now (.report info ref r)).2.board =
        (d.board.hear info.uuid ref.buildId now r).2 := congrArg Scheduler.board after
    have e := coherent.report_effect now info.uuid ref.buildId r
    obtain ⟨j', stored', becomes⟩ := e.becomes stored (e.made?_ne numbered stored)
    refine ⟨j', board ▸ stored', ?_⟩
    generalize (d.board.hear info.uuid ref.buildId now r).1 = answer at becomes
    generalize about : ref.buildId = id' at becomes
    cases becomes with
    | same => exact same
    | moved m =>
      cases m with
      | heard own heard => exact .heard rfl about own heard
    | retired _ r => cases r

theorem fares_getWork (info : Snapshot) :
    ∃ j', (d.perform now (.getWork info)).2.board.get? id = some j' ∧
      j.Fares ⟨⟨.getWork info, now⟩, (d.perform now (.getWork info)).1⟩ j' := by
  generalize (d.perform now (.getWork info)).1 = answer
  have same : j.Fares ⟨⟨.getWork info, now⟩, answer⟩ j :=
    .same (fun cancels => nomatch cancels.1) fun retires => nomatch retires.1
  cases d.tends_perform now (c := .getWork info) (by simp) with
  | still unchanged =>
    have board : (d.perform now (.getWork info)).2.board = d.board :=
      congrArg Scheduler.board unchanged
    exact ⟨j, board ▸ stored, same⟩
  | called after =>
    have board : (d.perform now (.getWork info)).2.board =
        ((d.board.releaseAbandoned info.uuid now).2.assignNext info now).2 :=
      congrArg Scheduler.board after
    have released := coherent.releaseAbandoned_effect now info.uuid
    obtain ⟨k, storedk, becomes⟩ := released.becomes stored (released.made?_ne numbered stored)
    have fares : j.Fares ⟨⟨.getWork info, now⟩, answer⟩ k ∧ k.state ≠ .scheduled := by
      generalize (d.board.releaseAbandoned info.uuid now).1 = copy at becomes
      cases becomes with
      | same => exact ⟨same, begun⟩
      | moved m =>
        cases m with
        | ended own running cancelled =>
          have ends := Job.Fares.abandoned (e := ⟨⟨.getWork info, now⟩, answer⟩) rfl own running
          rw [if_pos cancelled] at ends
          exact ⟨ends, nofun⟩
      | retired running r =>
        cases r with
        | abandoned own kept =>
          have ends := Job.Fares.abandoned (e := ⟨⟨.getWork info, now⟩, answer⟩) rfl own running
          rw [if_neg kept] at ends
          exact ⟨ends, nofun⟩
    have assigned := (released.coherent coherent).assignNext_effect now info
    obtain ⟨j', stored', next⟩ := assigned.becomes storedk (by simp [Board.Answer.made?])
    refine ⟨j', board ▸ stored', ?_⟩
    -- An assignment leaves alone what has begun.
    generalize ((d.board.releaseAbandoned info.uuid now).2.assignNext info now).1 = given at next
    cases next with
    | same => exact fares.1
    | moved m =>
      cases m with
      | assigned waits => exact absurd waits fares.2
    | retired _ r => cases r

end Fares

/-- What becomes of a job that has begun, by any call, as long as there are `Few` jobs. -/
theorem fares (orderly : Orderly config d) (x : Step Call)
    (few : (d.perform x.now x.call).2.board.Few) {id : BuildId} {j : Job}
    (stored : d.board.get? id = some j) (begun : j.state ≠ .scheduled) :
    ∃ j', (d.perform x.now x.call).2.board.get? id = some j' ∧
      j.Fares ⟨x, (d.perform x.now x.call).1⟩ j' := by
  obtain ⟨c, now⟩ := x
  have coherent := orderly.tended.coherent
  have numbered := orderly.tended.numbered ((orderly.size_le now c).trans_lt few)
  cases c with
  | cancelJob id' => exact fares_cancel coherent numbered stored begun id'
  | rescheduleJob id' => exact fares_reschedule coherent numbered stored id'
  | report info ref r => exact fares_report coherent numbered stored info ref r
  | getWork info => exact fares_getWork coherent numbered stored begun info
  | trigger t =>
    generalize answered : (d.perform now (.trigger t)).1 = answer
    have same : j.Fares ⟨⟨.trigger t, now⟩, answer⟩ j :=
      .same (fun cancels => nomatch cancels.1) fun retires => nomatch retires.1
    rcases launches_or_tends orderly.idle now (.trigger t) with
      ⟨_, _, _, made, b', -, launches, hp⟩ | ⟨-, tends⟩
    · have launched := launches.launched
      rw [hp] at few ⊢
      have absent : id ∉ made.jobs := by
        intro new
        rw [show d.board.get? id = none from launched.free numbered few id new] at stored
        cases stored
      exact ⟨j, (launched.kept id absent).trans stored, same⟩
    · exact ⟨j, (tends.board_eq rfl).symm ▸ stored, same⟩
  | ping | getCookie | approveAgent | disableAgent | sweepLostContact =>
    refine ⟨j, ?_, .same (fun cancels => nomatch cancels.1) fun retires => nomatch retires.1⟩
    exact (congrArg (Board.get? · id) (Tends.board_eq (d.tends_perform now (by simp)) rfl)).trans
      stored

end Dispatcher

end BuildDispatch
