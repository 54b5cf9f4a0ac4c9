import BuildDispatch.Proofs.Job.Lifecycle
import BuildDispatch.Proofs.Table

/-!
What a call does to a board: at most one job changes, or one is made, or one is retired and a copy
takes its place (`Board.Coherent.perform_effect`). The invariants of a board follow from that.
-/
namespace BuildDispatch

namespace Job

/-- What a call may do to a job of the board, and its answer then. -/
inductive Moved (j : Job) (now : Timestamp) : Board.Call → Board.Answer → Job → Prop where
  | assigned {info : Snapshot} (waits : j.state = .scheduled)
    (runs : j.plan.runnableWith info.resources = true) :
    Moved j now (.assignNext info) (.work (some ⟨j.ref, j.plan⟩))
      ({ j with agent := some info.uuid }.enter .assigned now)
  | heard {uuid : String} {r : Report} {j' : Job} (own : j.agent = some uuid)
    (heard : j.Heard now r j') :
    Moved j now (.report uuid j.buildId r) (.heard (.ok .accepted)) j'
  | dropped (waits : j.state = .scheduled) :
    Moved j now (.cancel j.buildId) (.cancelled (.ok true))
      ((j.conclude .cancelled).enter .completed now)
  | marked (begun : j.state ≠ .scheduled) (running : j.isTerminal = false)
    (new : j.result ≠ .cancelled) :
    Moved j now (.cancel j.buildId) (.cancelled (.ok true)) (j.conclude .cancelled)
  | ended {uuid : String} (own : j.agent = some uuid) (running : j.isTerminal = false)
    (cancelled : j.result = .cancelled) :
    Moved j now (.releaseAbandoned uuid) (.released none) (j.enter .completed now)

inductive Retired (j : Job) (copy : BuildId) : Board.Call → Board.Answer → Prop where
  | asked : Retired j copy (.reschedule j.buildId) (.rescheduled (.ok (some copy)))
  | abandoned {uuid : String} (own : j.agent = some uuid) (kept : j.result ≠ .cancelled) :
    Retired j copy (.releaseAbandoned uuid) (.released (some copy))

/-- What holds of every job of a board. -/
structure Coherent (j : Job) : Prop where
  recorded : j.Recorded
  unassigned : j.state = .scheduled → j.agent = none

theorem coherent_scheduled (ref : JobRef) (plan : Plan) (now : Timestamp) :
    (scheduled ref plan now).Coherent := ⟨recorded_scheduled ref plan now, fun _ => rfl⟩

theorem Coherent.begun {j : Job} (h : j.Coherent) {uuid : String} (own : j.agent = some uuid) :
    j.state ≠ .scheduled := by
  intro hs
  rw [h.unassigned hs] at own
  cases own

namespace Moved

variable {j j' : Job} {now : Timestamp} {c : Board.Call} {a : Board.Answer}

theorem ref_eq (m : j.Moved now c a j') : j'.ref = j.ref := by
  cases m with
  | heard own h => cases h <;> simp [enter]
  | _ => simp [enter]

theorem buildId_eq (m : j.Moved now c a j') : j'.buildId = j.buildId :=
  congrArg JobRef.buildId m.ref_eq

theorem plan_eq (m : j.Moved now c a j') : j'.plan = j.plan := by
  cases m with
  | heard own h => cases h <;> simp [enter]
  | _ => simp [enter]

theorem running (m : j.Moved now c a j') : j.isTerminal = false := by
  cases m with
  | assigned waits => rw [isTerminal, waits]; rfl
  | heard own h =>
    cases h with
    | amended there => rw [isTerminal, there]; rfl
    | advanced ahead => exact JobState.not_terminal_of_canAdvanceTo ahead
    | completing ahead => exact JobState.not_terminal_of_canAdvanceTo ahead
    | completed ahead => exact JobState.not_terminal_of_canAdvanceTo ahead
  | dropped waits => rw [isTerminal, waits]; rfl
  | marked _ running => exact running
  | ended _ running => exact running

/-- No job that changes waits afterwards, be it that it waited before or not. -/
theorem begun (m : j.Moved now c a j') (hj : j.Coherent) : j'.state ≠ .scheduled := by
  cases m with
  | assigned => simp [enter]
  | heard own h =>
    cases h with
    | advanced ahead =>
      intro hs
      change _ = JobState.scheduled at hs
      subst hs
      revert ahead
      cases j.state <;> decide
    | completing => simp [enter]
    | amended => rw [state_conclude]; exact hj.begun own
    | completed => simp [enter]
  | dropped => simp [enter]
  | marked begun => rw [state_conclude]; exact begun
  | ended => simp [enter]

theorem not_rescheduled (m : j.Moved now c a j') : j'.state ≠ .rescheduled := by
  have hr := m.running
  have hj : j.state ≠ .rescheduled := by
    intro hs
    rw [isTerminal, hs] at hr
    cases hr
  cases m with
  | assigned => simp [enter]
  | heard own h =>
    cases h with
    | advanced ahead =>
      intro hs
      change _ = JobState.rescheduled at hs
      subst hs
      revert ahead
      cases j.state <;> decide
    | completing => simp [enter]
    | amended => rw [state_conclude]; exact hj
    | completed => simp [enter]
  | dropped => simp [enter]
  | marked => rw [state_conclude]; exact hj
  | ended => simp [enter]

theorem agent_eq (m : j.Moved now c a j') :
    j'.agent = j.agent ∨ ∃ info, c = .assignNext info ∧ a.given? = some j.buildId ∧
      j.state = .scheduled ∧ j'.agent = some info.uuid := by
  cases m with
  | assigned waits => exact .inr ⟨_, rfl, rfl, waits, rfl⟩
  | heard own h => exact .inl h.agent_eq
  | _ => simp [enter]

/-- A change of state is written down, and is one that the call may make. -/
theorem written (m : j.Moved now c a j') (hj : j.Coherent) :
    j'.state = j.state ∧ j'.transitions = j.transitions ∨
      ∃ t, c.Leads j.state t ∧ j'.state = t ∧ j'.transitions = j.transitions ++ [⟨t, now⟩] := by
  cases m with
  | assigned waits => exact .inr ⟨_, ⟨waits, rfl⟩, rfl, rfl⟩
  | heard own h =>
    have begun := hj.begun own
    cases h with
    | advanced ahead => exact .inr ⟨_, ⟨begun, ahead⟩, rfl, rfl⟩
    | completing ahead => exact .inr ⟨_, ⟨begun, ahead⟩, rfl, by simp [enter]⟩
    | amended => exact .inl ⟨by simp, by simp⟩
    | completed ahead => exact .inr ⟨_, ⟨begun, ahead⟩, rfl, by simp [enter]⟩
  | dropped waits => exact .inr ⟨_, ⟨waits, rfl⟩, rfl, by simp [enter]⟩
  | marked => exact .inl ⟨by simp, by simp⟩
  | ended own running =>
    exact .inr ⟨_, .inr ⟨hj.begun own, JobState.canAdvanceTo_completed running⟩, rfl, rfl⟩

theorem made?_eq (m : j.Moved now c a j') : a.made? = none := by
  cases m <;> rfl

theorem of_given? (m : j.Moved now c a j') {id : BuildId} (hg : a.given? = some id) :
    ∃ info, c = .assignNext info ∧ j.buildId = id ∧ j.state = .scheduled ∧
      j'.agent = some info.uuid ∧ j'.state = .assigned := by
  cases m with
  | assigned waits => exact ⟨_, rfl, Option.some.inj hg, waits, rfl, rfl⟩
  | _ => cases hg

end Moved

/-- What a call makes of a job of the board: the job stays, changes or is retired. -/
inductive Becomes (j : Job) (now : Timestamp) (copy : BuildId) (c : Board.Call)
    (a : Board.Answer) : Job → Prop where
  | same : Becomes j now copy c a j
  | moved {j' : Job} (move : j.Moved now c a j') : Becomes j now copy c a j'
  | retired (running : j.isTerminal = false) (retired : j.Retired copy c a) :
    Becomes j now copy c a (j.enter .rescheduled now)

namespace Becomes

variable {j j' : Job} {now : Timestamp} {copy : BuildId} {c : Board.Call} {a : Board.Answer}

theorem ref_eq (h : j.Becomes now copy c a j') : j'.ref = j.ref := by
  cases h with
  | moved m => exact m.ref_eq
  | _ => rfl

theorem buildId_eq (h : j.Becomes now copy c a j') : j'.buildId = j.buildId :=
  congrArg JobRef.buildId h.ref_eq

theorem eq_of_terminal (h : j.Becomes now copy c a j') (ended : j.isTerminal = true) : j' = j := by
  cases h with
  | same => rfl
  | moved m => rw [m.running] at ended; cases ended
  | retired running => rw [running] at ended; cases ended

theorem agent_eq (h : j.Becomes now copy c a j') :
    j'.agent = j.agent ∨ ∃ info, c = .assignNext info ∧ a.given? = some j.buildId ∧
      j.state = .scheduled ∧ j'.agent = some info.uuid := by
  cases h with
  | moved m => exact m.agent_eq
  | _ => exact .inl rfl

theorem written (h : j.Becomes now copy c a j') (hj : j.Coherent) :
    j'.state = j.state ∧ j'.transitions = j.transitions ∨
      ∃ t, c.Leads j.state t ∧ j'.state = t ∧ j'.transitions = j.transitions ++ [⟨t, now⟩] := by
  cases h with
  | same => exact .inl ⟨rfl, rfl⟩
  | moved m => exact m.written hj
  | retired running r =>
    refine .inr ⟨.rescheduled, ?_, rfl, rfl⟩
    cases r with
    | asked => exact ⟨running, rfl⟩
    | abandoned => exact .inl ⟨running, rfl⟩

theorem unassigned (h : j.Becomes now copy c a j') (hj : j.Coherent) :
    j'.state = .scheduled → j'.agent = none := by
  intro hs
  cases h with
  | same => exact hj.unassigned hs
  | moved m => exact absurd hs (m.begun hj)
  | retired => cases hs

theorem coherent (h : j.Becomes now copy c a j') (hj : j.Coherent) : j'.Coherent where
  unassigned := h.unassigned hj
  recorded := by
    rcases h.written hj with ⟨hs, hw⟩ | ⟨t, ht, hs, hw⟩
    · exact hj.recorded.same hs hw
    · exact hj.recorded.extend ht.leadsTo hs hw

end Becomes

end Job

namespace Board

/-- A job is taken off the list of those that wait, and an assignment is noted. -/
def take (b : Board) (c : Call) (id : BuildId) : Board :=
  { b with
    waiting := b.waiting.erase id
    assignments :=
      match c with
      | .assignNext info => b.assignments.insert info.uuid id
      | _ => b.assignments }

def copyOf (b : Board) (j : Job) (now : Timestamp) : Job :=
  .scheduled { j.ref with buildId := b.nextId } j.plan now

def replace (b : Board) (j : Job) (now : Timestamp) : Board :=
  let retired := (b.leaveWaiting j.buildId).commit (j.enter .rescheduled now)
  (retired.insertScheduled j.ref j.plan now).2

section Views

variable (b : Board) (j : Job) (ref : JobRef) (plan : Plan) (c : Call) (now : Timestamp)
  (id q : BuildId)

theorem get?_commit : (b.commit j).get? q = if q = j.buildId then some j else b.get? q :=
  Table.get?_insert _ _ _ _

@[simp] theorem get?_take : (b.take c id).get? q = b.get? q := rfl

theorem get?_insertScheduled : (b.insertScheduled ref plan now).2.get? q =
    if q = b.nextId then some (.scheduled { ref with buildId := b.nextId } plan now)
    else b.get? q := Table.get?_insert _ _ _ _

theorem get?_replace : (b.replace j now).get? q =
    if q = b.nextId then some (b.copyOf j now)
    else if q = j.buildId then some (j.enter .rescheduled now) else b.get? q := by
  unfold replace
  rw [get?_insertScheduled, get?_commit]
  rfl

@[simp] theorem waiting_commit : (b.commit j).waiting = b.waiting := rfl

@[simp] theorem waiting_take : (b.take c id).waiting = b.waiting.erase id := rfl

@[simp] theorem waiting_insertScheduled :
    (b.insertScheduled ref plan now).2.waiting = b.waiting.insert b.nextId () := rfl

@[simp] theorem waiting_replace :
    (b.replace j now).waiting = (b.waiting.erase j.buildId).insert b.nextId () := rfl

end Views

/-- The jobs stand under their numbers, and those that wait are listed. -/
structure Coherent (b : Board) : Prop where
  keyed : ∀ {id j}, b.get? id = some j → j.buildId = id
  listed : ∀ id, b.waiting.contains id = true ↔ ∃ j, b.get? id = some j ∧ j.state = .scheduled
  jobs : ∀ {id j}, b.get? id = some j → j.Coherent

theorem coherent_empty : empty.Coherent where
  keyed := by intro id j h; cases h
  listed := by
    intro id
    constructor
    · intro h; cases h
    · rintro ⟨_, h, _⟩; cases h
  jobs := by intro id j h; cases h

/-- What a call does, and its answer. -/
inductive Effect (b : Board) (now : Timestamp) (c : Call) : Answer → Board → Prop where
  | still {a : Answer} (rejections : RejectionCounts) (asked : ∀ request, c ≠ .create request)
    (made : a.made? = none) (given : a.given? = none) : Effect b now c a { b with rejections }
  | moved {a : Answer} {j j' : Job} (stored : b.get? j.buildId = some j)
    (move : j.Moved now c a j') : Effect b now c a ((b.take c j.buildId).commit j')
  | added {r : JobRequest} (asked : c = .create r) :
    Effect b now c (.made b.nextId)
      (b.insertScheduled ⟨r.pipeline, r.label, r.stage, r.job, 0⟩ r.plan now).2
  | replaced {a : Answer} {j : Job} (stored : b.get? j.buildId = some j)
    (running : j.isTerminal = false) (retired : j.Retired b.nextId c a) :
    Effect b now c a (b.replace j now)

theorem assignAmong_cases {b : Board} {ids : List BuildId} (info : Snapshot) (now : Timestamp)
    (waits : ∀ id ∈ ids, ∃ j, b.get? id = some j ∧ j.state = .scheduled) :
    (b.assignAmong info now ids = (none, b) ∧
      ∀ id ∈ ids, ∀ j, b.get? id = some j → j.plan.runnableWith info.resources = false) ∨
    ∃ older id rest j, ids = older ++ id :: rest ∧ b.get? id = some j ∧ j.state = .scheduled ∧
      j.plan.runnableWith info.resources = true ∧
      (∀ i ∈ older, ∀ k, b.get? i = some k → k.plan.runnableWith info.resources = false) ∧
      b.assignAmong info now ids = (some ⟨j.ref, j.plan⟩, (b.take (.assignNext info) id).commit
        ({ j with agent := some info.uuid }.enter .assigned now)) := by
  induction ids with
  | nil => exact .inl ⟨rfl, by simp⟩
  | cons id rest ih =>
    obtain ⟨j, hj, hs⟩ := waits id List.mem_cons_self
    have ih := ih fun i hi => waits i (List.mem_cons_of_mem _ hi)
    unfold assignAmong
    simp only [hj, hs, ne_eq, not_true_eq_false, if_false]
    by_cases hr : j.plan.runnableWith info.resources = true
    · have ha : j.assign? info.uuid now =
          some ({ j with agent := some info.uuid }.enter .assigned now) := if_pos hs
      refine .inr ⟨[], id, rest, j, rfl, hj, hs, hr, by simp, ?_⟩
      simp only [hr, if_true, ha]
      rfl
    · have passed : ∀ k, b.get? id = some k → k.plan.runnableWith info.resources = false := by
        intro k hk
        rw [hj] at hk
        cases hk
        simpa using hr
      rw [if_neg hr]
      rcases ih with ⟨he, hn⟩ | ⟨older, i, rest', k, rfl, hk, hks, hkr, ho, he⟩
      · exact .inl ⟨he, List.forall_mem_cons.2 ⟨passed, hn⟩⟩
      · exact .inr ⟨id :: older, i, rest', k, rfl, hk, hks, hkr,
          List.forall_mem_cons.2 ⟨passed, ho⟩, he⟩

theorem reschedule_of_running {b : Board} {j : Job} (now : Timestamp)
    (stored : b.get? j.buildId = some j)
    (running : j.isTerminal = false) :
    b.reschedule j.buildId now = (.ok (some b.nextId), b.replace j now) := by
  unfold reschedule Job.retire?
  rw [stored]
  simp only [running]
  rfl

namespace Coherent

variable {b : Board} (h : b.Coherent) (now : Timestamp)
include h

theorem take_eq {j : Job} (stored : b.get? j.buildId = some j) (begun : j.state ≠ .scheduled)
    {c : Call} (hc : ∀ info, c ≠ .assignNext info) : b.take c j.buildId = b := by
  have hw : b.waiting.get? j.buildId = none := by
    by_contra hn
    have hl := (h.listed j.buildId).1 (Option.isSome_iff_ne_none.2 hn)
    obtain ⟨k, hk, hs⟩ := hl
    rw [stored] at hk
    cases hk
    exact begun hs
  unfold take
  rw [Table.erase_eq_self hw]
  cases c with
  | assignNext info => exact absurd rfl (hc info)
  | _ => rfl

theorem assignNext_effect (info : Snapshot) :
    b.Effect now (.assignNext info) (.work (b.assignNext info now).1)
      (b.assignNext info now).2 := by
  have waits : ∀ id ∈ b.waiting.keys, ∃ j, b.get? id = some j ∧ j.state = .scheduled :=
    fun id hi => (h.listed id).1 (Table.mem_keys.1 hi)
  unfold assignNext
  rcases assignAmong_cases info now waits with ⟨he, -⟩ | ⟨_, id, _, j, -, hj, hs, hr, -, he⟩
  · rw [he]
    exact .still b.rejections (by simp) rfl rfl
  · rw [he]
    have hid : j.buildId = id := h.keyed hj
    subst hid
    exact .moved hj (.assigned hs hr)

theorem report_effect (uuid : String) (id : BuildId) (r : Report) :
    b.Effect now (.report uuid id r) (.heard (b.hear uuid id now r).1)
      (b.hear uuid id now r).2 := by
  rw [hear_eq]
  unfold report
  cases hj : b.get? id with
  | none => exact .still _ (by simp) rfl rfl
  | some j =>
    have hid : j.buildId = id := h.keyed hj
    subst hid
    dsimp only
    by_cases own : j.isAssignedTo uuid = true
    · rw [if_pos own]
      have own : j.agent = some uuid := of_decide_eq_true own
      cases hr : j.hear now r with
      | error outcome => exact .still _ (by simp) rfl rfl
      | ok j' =>
        have heard := Job.heard_of_hear hr
        have ht : b.take (.report uuid j.buildId r) j.buildId = b :=
          h.take_eq hj ((h.jobs hj).begun own) (by simp)
        have he := Effect.moved (b := b) hj (.heard own heard)
        rw [ht] at he
        exact he
    · rw [if_neg own]
      exact .still _ (by simp) rfl rfl

theorem cancel_effect (id : BuildId) :
    b.Effect now (.cancel id) (.cancelled (b.cancel id now).1) (b.cancel id now).2 := by
  unfold cancel
  cases hj : b.get? id with
  | none => exact .still _ (by simp) rfl rfl
  | some j =>
    have hid : j.buildId = id := h.keyed hj
    subst hid
    dsimp only
    cases hc : j.cancel? now with
    | none => exact .still _ (by simp) rfl rfl
    | some j' =>
      dsimp only
      unfold Job.cancel? at hc
      split at hc
      case h_1 => cases hc
      case h_2 => cases hc
      case h_3 waits =>
        cases hc
        rw [if_pos waits]
        exact .moved hj (.dropped waits)
      case h_4 hd hr hs =>
        split_ifs at hc with new
        cases hc
        have running : j.isTerminal = false := by
          unfold Job.isTerminal
          revert hd hr
          cases j.state <;> simp [JobState.isTerminal]
        have ht : b.take (.cancel j.buildId) j.buildId = b := h.take_eq hj hs (by simp)
        have he : b.Effect now (.cancel j.buildId) _ _ := .moved hj (.marked hs running new)
        rw [if_neg hs]
        rw [ht] at he
        exact he

theorem reschedule_effect (id : BuildId) :
    b.Effect now (.reschedule id) (.rescheduled (b.reschedule id now).1)
      (b.reschedule id now).2 := by
  cases hj : b.get? id with
  | none =>
    unfold reschedule
    rw [hj]
    exact .still _ (by simp) rfl rfl
  | some j =>
    have hid : j.buildId = id := h.keyed hj
    subst hid
    cases ht : j.isTerminal with
    | false =>
      rw [reschedule_of_running now hj ht]
      exact .replaced hj ht .asked
    | true =>
      unfold reschedule Job.retire?
      rw [hj]
      simp only [ht]
      exact .still _ (by simp) rfl rfl

theorem releaseAbandoned_effect (uuid : String) :
    b.Effect now (.releaseAbandoned uuid) (.released (b.releaseAbandoned uuid now).1)
      (b.releaseAbandoned uuid now).2 := by
  unfold releaseAbandoned
  cases hj : (b.assignments.get? uuid).bind b.get? with
  | none => exact .still _ (by simp) rfl rfl
  | some j =>
    obtain ⟨id, -, hj⟩ := Option.bind_eq_some_iff.1 hj
    have hid : j.buildId = id := h.keyed hj
    subst hid
    dsimp only
    split_ifs with hq hc
    · exact .still _ (by simp) rfl rfl
    · have hq : j.isTerminal = false ∧ j.isAssignedTo uuid = true := by simpa using hq
      have own : j.agent = some uuid := of_decide_eq_true hq.2
      have ht : b.take (.releaseAbandoned uuid) j.buildId = b :=
        h.take_eq hj ((h.jobs hj).begun own) (by simp)
      have he : b.Effect now (.releaseAbandoned uuid) _ _ := .moved hj (.ended own hq.1 hc)
      rw [ht] at he
      exact he
    · have hq : j.isTerminal = false ∧ j.isAssignedTo uuid = true := by simpa using hq
      have own : j.agent = some uuid := of_decide_eq_true hq.2
      rw [reschedule_of_running now hj hq.1]
      exact .replaced hj hq.1 (.abandoned own hc)

/-- Every call has one of the four effects. -/
theorem perform_effect (c : Call) : b.Effect now c (b.perform now c).1 (b.perform now c).2 := by
  cases c with
  | create => exact .added rfl
  | assignNext info => exact h.assignNext_effect now info
  | report uuid id r => exact h.report_effect now uuid id r
  | cancel id => exact h.cancel_effect now id
  | reschedule id => exact h.reschedule_effect now id
  | releaseAbandoned uuid => exact h.releaseAbandoned_effect now uuid

end Coherent

namespace Effect

variable {b b' : Board} {now : Timestamp} {c : Call} {a : Answer}

theorem eq_nextId_of_made? (e : b.Effect now c a b') {id : BuildId} (hm : a.made? = some id) :
    id = b.nextId := by
  cases e with
  | still _ _ made => rw [made] at hm; cases hm
  | moved _ m => rw [m.made?_eq] at hm; cases hm
  | added => exact (Option.some.inj hm).symm
  | replaced _ _ r => cases r <;> exact (Option.some.inj hm).symm

/-- Where the jobs of a board come from: they stood there, were asked for, or are copies. -/
theorem source (e : b.Effect now c a b') {id : BuildId} {j' : Job}
    (stored' : b'.get? id = some j') :
    (∃ j, b.get? id = some j ∧ j.Becomes now b.nextId c a j') ∨
      (∃ r, c = .create r ∧ a = .made id ∧ id = b.nextId ∧
        j' = .scheduled ⟨r.pipeline, r.label, r.stage, r.job, id⟩ r.plan now) ∨
      ∃ j, b.get? j.buildId = some j ∧ j.isTerminal = false ∧ j.Retired b.nextId c a ∧
        b' = b.replace j now ∧ id = b.nextId ∧ j' = b.copyOf j now := by
  cases e with
  | still => exact .inl ⟨j', stored', .same⟩
  | @moved _ j k stored m =>
    rw [get?_commit, get?_take, m.buildId_eq] at stored'
    split_ifs at stored' with hid
    · cases stored'
      exact .inl ⟨j, hid ▸ stored, .moved m⟩
    · exact .inl ⟨j', stored', .same⟩
  | @added r asked =>
    rw [get?_insertScheduled] at stored'
    split_ifs at stored' with hid
    · cases stored'
      exact .inr (.inl ⟨r, asked, by rw [hid], hid, by rw [hid]⟩)
    · exact .inl ⟨j', stored', .same⟩
  | @replaced _ j stored running r =>
    rw [get?_replace] at stored'
    split_ifs at stored' with hn hid
    · cases stored'
      exact .inr (.inr ⟨j, stored, running, r, rfl, hn, rfl⟩)
    · cases stored'
      exact .inl ⟨j, hid ▸ stored, .retired running r⟩
    · exact .inl ⟨j', stored', .same⟩

theorem origin (e : b.Effect now c a b') {id : BuildId} {j' : Job}
    (stored' : b'.get? id = some j') :
    (∃ j, b.get? id = some j ∧ j.Becomes now b.nextId c a j') ∨
      id = b.nextId ∧ a.made? = some id ∧
        ∃ (ref : JobRef) (plan : Plan), j' = .scheduled { ref with buildId := id } plan now := by
  rcases e.source stored' with old | ⟨r, -, rfl, hid, hj⟩ | ⟨j, -, -, r, -, hid, hj⟩
  · exact .inl old
  · exact .inr ⟨hid, rfl, ⟨r.pipeline, r.label, r.stage, r.job, id⟩, r.plan, hj⟩
  · refine .inr ⟨hid, ?_, j.ref, j.plan, by rw [hj, hid]; rfl⟩
    rw [hid]
    cases r <;> rfl

/-- Whoever has a job now had it before, or was just given it. -/
theorem owned (e : b.Effect now c a b') (h : b.Coherent) {uuid : String} {id : BuildId} {j' : Job}
    (stored' : b'.get? id = some j') (own' : j'.agent = some uuid) :
    (∃ j, b.get? id = some j ∧ j.agent = some uuid ∧ j.Becomes now b.nextId c a j') ∨
      ∃ info, c = .assignNext info ∧ info.uuid = uuid ∧ a.given? = some id := by
  rcases e.origin stored' with ⟨j, stored, hb⟩ | ⟨-, -, ref, plan, rfl⟩
  · rcases hb.agent_eq with he | ⟨info, ha, hg, -, he⟩
    · exact .inl ⟨j, stored, he ▸ own', hb⟩
    · rw [he] at own'
      rw [h.keyed stored] at hg
      exact .inr ⟨info, ha, Option.some.inj own', hg⟩
  · cases own'

/-- No job is lost, as long as no new one takes its number. -/
theorem becomes (e : b.Effect now c a b') {id : BuildId} {j : Job} (stored : b.get? id = some j)
    (kept : a.made? ≠ some id) : ∃ j', b'.get? id = some j' ∧ j.Becomes now b.nextId c a j' := by
  cases e with
  | still => exact ⟨j, stored, .same⟩
  | @moved _ k k' stored' m =>
    rw [get?_commit, get?_take, m.buildId_eq]
    split_ifs with hid
    · subst hid
      rw [stored] at stored'
      cases stored'
      exact ⟨_, rfl, .moved m⟩
    · exact ⟨j, stored, .same⟩
  | added =>
    have hne : id ≠ b.nextId := fun hid => kept (congrArg some hid.symm)
    rw [get?_insertScheduled, if_neg hne]
    exact ⟨j, stored, .same⟩
  | @replaced _ k stored' running r =>
    have hm : a.made? = some b.nextId := by cases r <;> rfl
    have hne : id ≠ b.nextId := fun hid => kept (hid ▸ hm)
    rw [get?_replace, if_neg hne]
    split_ifs with hid
    · subst hid
      rw [stored] at stored'
      cases stored'
      exact ⟨_, rfl, .retired running r⟩
    · exact ⟨j, stored, .same⟩

/-- Only a running job is made again where an operator asks for it, and it is retired. -/
theorem of_rescheduled {copy : BuildId} (e : b.Effect now c (.rescheduled (.ok (some copy))) b') :
    ∃ j, c = .reschedule j.buildId ∧ b.get? j.buildId = some j ∧ j.isTerminal = false ∧
      copy = b.nextId ∧ b' = b.replace j now := by
  cases e with
  | still _ _ made => cases made
  | moved _ m => cases m.made?_eq
  | replaced stored running r =>
    cases r
    exact ⟨_, rfl, stored, running, rfl, rfl⟩

theorem of_given? (e : b.Effect now c a b') {id : BuildId} (hg : a.given? = some id) :
    ∃ info j j', c = .assignNext info ∧ b.get? id = some j ∧ j.state = .scheduled ∧
      b'.get? id = some j' ∧ j'.agent = some info.uuid ∧ j'.state = .assigned := by
  cases e with
  | still _ _ _ given => rw [given] at hg; cases hg
  | @moved _ j j' stored m =>
    obtain ⟨info, hc, rfl, waits, own, hs⟩ := m.of_given? hg
    have stored' : ((b.take c j.buildId).commit j').get? j.buildId = some j' := by
      rw [get?_commit, m.buildId_eq, if_pos rfl]
    exact ⟨info, j, j', hc, stored, waits, stored', own, hs⟩
  | added => cases hg
  | replaced _ _ r => cases r <;> cases hg

theorem listed (e : b.Effect now c a b') (h : b.Coherent) (id : BuildId) :
    b'.waiting.contains id = true ↔ ∃ j, b'.get? id = some j ∧ j.state = .scheduled := by
  cases e with
  | still => exact h.listed id
  | @moved _ j j' stored m =>
    rw [waiting_commit, waiting_take, Table.contains_erase, get?_commit, get?_take, m.buildId_eq]
    by_cases hid : id = j.buildId
    · have hs := m.begun (h.jobs stored)
      simp [hid, hs]
    · simpa [hid] using h.listed id
  | added =>
    rw [waiting_insertScheduled, Table.contains_insert, get?_insertScheduled]
    by_cases hid : id = b.nextId
    · simp [hid, Job.scheduled]
    · simpa [hid] using h.listed id
  | @replaced _ j stored running =>
    rw [waiting_replace, Table.contains_insert, Table.contains_erase, get?_replace]
    by_cases hn : id = b.nextId
    · simp [hn, copyOf, Job.scheduled]
    · by_cases hid : id = j.buildId
      · subst hid
        simp [hn, Job.enter]
      · simpa [hn, hid] using h.listed id

theorem latestCauses_eq (e : b.Effect now c a b') :
    b'.repository.latestCauses = b.repository.latestCauses := by
  cases e <;> rfl

theorem coherent (e : b.Effect now c a b') (h : b.Coherent) : b'.Coherent where
  keyed := by
    intro id j' stored'
    rcases e.origin stored' with ⟨j, stored, hb⟩ | ⟨-, -, ref, plan, rfl⟩
    · rw [hb.buildId_eq]
      exact h.keyed stored
    · rfl
  listed := e.listed h
  jobs := by
    intro id j' stored'
    rcases e.origin stored' with ⟨j, stored, hb⟩ | ⟨-, -, ref, plan, rfl⟩
    · exact hb.coherent (h.jobs stored)
    · exact Job.coherent_scheduled _ _ _

end Effect

end Board

end BuildDispatch
