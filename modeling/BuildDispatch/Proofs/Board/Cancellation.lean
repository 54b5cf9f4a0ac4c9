import BuildDispatch.Proofs.Board.Holder
import BuildDispatch.Proofs.Board.Report

/-!
Durable cancellation. A job that an operator cancelled stays cancelled, is handed out to nobody, and
is copied only if an operator asks for that; and no job is cancelled but by an operator or by the
word of its agent (`Board.cancellation_is_durable`).
-/
namespace BuildDispatch

namespace Job

/-- The job was cancelled, and waits no more. -/
structure Cancelled (j : Job) : Prop where
  result : j.result = .cancelled
  begun : j.state ≠ .scheduled

variable {j j' : Job} {now : Timestamp} {copy : BuildId} {c : Board.Call} {a : Board.Answer}

theorem Moved.result_eq_cancelled (m : j.Moved now c a j') (h : j.result = .cancelled) :
    j'.result = .cancelled := by
  cases m with
  | assigned => exact h
  | heard own heard =>
    cases heard with
    | advanced => exact h
    | completing => exact result_conclude_of_cancelled h _
    | amended => exact result_conclude_of_cancelled h _
    | completed => exact result_conclude_of_cancelled h _
  | dropped => exact j.result_conclude_cancelled
  | marked => exact j.result_conclude_cancelled
  | ended => exact h

theorem Becomes.cancelled (hb : j.Becomes now copy c a j') (hj : j.Coherent) (h : j.Cancelled) :
    j'.Cancelled := by
  cases hb with
  | same => exact h
  | moved m => exact ⟨m.result_eq_cancelled h.result, m.begun hj⟩
  | retired => exact ⟨h.result, by simp [enter]⟩

theorem cancelled_of_cancel? (h : j.cancel? now = some j') : j'.ref = j.ref ∧ j'.Cancelled := by
  unfold cancel? at h
  split at h
  case h_1 => cases h
  case h_2 => cases h
  case h_3 =>
    cases h
    exact ⟨j.ref_conclude _, j.result_conclude_cancelled, by simp [enter]⟩
  case h_4 waits =>
    split_ifs at h
    cases h
    exact ⟨j.ref_conclude _, j.result_conclude_cancelled, by rwa [state_conclude]⟩

theorem cancel?_eq_none_iff (h : j.result = .cancelled → j.state ≠ .scheduled)
    (now : Timestamp) :
    j.cancel? now = none ↔ j.isTerminal = true ∨ j.result = .cancelled := by
  unfold cancel? isTerminal
  split
  case h_1 hs => simp [hs, JobState.isTerminal]
  case h_2 hs => simp [hs, JobState.isTerminal]
  case h_3 hs =>
    have hr : j.result ≠ .cancelled := fun hr => h hr hs
    simp [hs, hr, JobState.isTerminal]
  case h_4 hc hr _ =>
    have running : j.state.isTerminal = false := by
      revert hc hr
      cases j.state <;> simp [JobState.isTerminal]
    simp [running]

end Job

namespace Board

def Cancels (e : Entry Call Answer) (id : BuildId) : Prop :=
  e.call = .cancel id ∧ e.answer = .cancelled (.ok true)

/-- Whether an agent was heard to say that its job was cancelled. -/
def TellsCancelled (e : Entry Call Answer) (uuid : String) (id : BuildId) : Prop :=
  (e.call = .report uuid id (.completing .cancelled) ∨
    e.call = .report uuid id (.completed .cancelled)) ∧ e.answer = .heard (.ok .accepted)

end Board

theorem Job.Moved.cancelled_by {j j' : Job} {now : Timestamp} {c : Board.Call} {a : Board.Answer}
    (m : j.Moved now c a j') (h : j.result ≠ .cancelled) (h' : j'.result = .cancelled) :
    Board.Cancels ⟨⟨c, now⟩, a⟩ j.buildId ∨
      ∃ uuid, j.agent = some uuid ∧ Board.TellsCancelled ⟨⟨c, now⟩, a⟩ uuid j.buildId := by
  cases m with
  | assigned => exact absurd h' h
  | heard own heard =>
    refine .inr ⟨_, own, ?_⟩
    cases heard with
    | advanced => exact absurd h' h
    | completing =>
      cases eq_cancelled_of_conclude h h'
      exact ⟨.inl rfl, rfl⟩
    | amended =>
      cases eq_cancelled_of_conclude h h'
      exact ⟨.inl rfl, rfl⟩
    | completed =>
      cases eq_cancelled_of_conclude h h'
      exact ⟨.inr rfl, rfl⟩
  | dropped => exact .inl ⟨rfl, rfl⟩
  | marked => exact .inl ⟨rfl, rfl⟩
  | ended => exact absurd h' h

theorem Job.Becomes.cancelled_by {j j' : Job} {x : Step Board.Call} {copy : BuildId}
    {a : Board.Answer} (hb : j.Becomes x.now copy x.call a j') (h : j.result ≠ .cancelled)
    (h' : j'.result = .cancelled) :
    Board.Cancels ⟨x, a⟩ j.buildId ∨
      ∃ uuid, j.agent = some uuid ∧ Board.TellsCancelled ⟨x, a⟩ uuid j.buildId := by
  cases hb with
  | same => exact absurd h' h
  | moved m => exact m.cancelled_by h h'
  | retired => exact absurd h' h

namespace Board

/-- A job was retired, and a new one of the same names and the same plan waits. -/
def Copied (b b' : Board) (id copy : BuildId) : Prop :=
  b.get? copy = none ∧ ∃ j j' k, b.get? id = some j ∧ j.isTerminal = false ∧
    b'.get? id = some j' ∧ j'.state = .rescheduled ∧
    b'.get? copy = some k ∧ k.request = j.request ∧ k.state = .scheduled

namespace Effect

variable {b b' : Board} {now : Timestamp} {c : Call} {a : Answer}

/-- A new job was asked for, or it is the copy of another. -/
theorem asked_or_copied (e : b.Effect now c a b') (h : b.Numbered) {copy : BuildId} {k : Job}
    (absent : b.get? copy = none) (stored' : b'.get? copy = some k) :
    c = .create k.request ∨ ∃ id, b.Copied b' id copy := by
  cases e with
  | still =>
    change b.get? copy = some k at stored'
    rw [absent] at stored'
    cases stored'
  | @moved _ j j' stored m =>
    rw [get?_commit, get?_take, m.buildId_eq] at stored'
    split_ifs at stored' with hid
    · rw [hid, stored] at absent
      cases absent
    · rw [absent] at stored'
      cases stored'
  | added asked =>
    rw [get?_insertScheduled] at stored'
    split_ifs at stored'
    · cases stored'
      exact .inl asked
    · rw [absent] at stored'
      cases stored'
  | @replaced _ j stored running r =>
    have retired : (b.replace j now).get? j.buildId = some (j.enter .rescheduled now) := by
      rw [get?_replace, if_neg (h.ne_nextId stored), if_pos rfl]
    have made := stored'
    rw [get?_replace] at made
    split_ifs at made with hn hid
    · cases made
      exact .inr ⟨j.buildId, absent, j, _, _, stored, running, retired, rfl, stored', rfl, rfl⟩
    · rw [hid, stored] at absent
      cases absent
    · rw [absent] at made
      cases made

/-- A cancelled job is copied for an operator only. -/
theorem not_copied (e : b.Effect now c a b') (hc : b.Coherent) (h : b.Numbered) {id : BuildId}
    {j : Job} (stored : b.get? id = some j) (cancelled : j.result = .cancelled)
    (unasked : c ≠ .reschedule id) (copy : BuildId) : ¬b.Copied b' id copy := by
  rintro ⟨-, k, k', _, hk, running, hk', retired, -⟩
  obtain ⟨j', stored', hb⟩ := e.becomes stored (e.made?_ne h stored)
  rw [stored] at hk
  cases hk
  rw [stored'] at hk'
  cases hk'
  -- Of the ways in which a job may change, only `retired` leads to `rescheduled`.
  cases hb with
  | same =>
    rw [Job.isTerminal, retired] at running
    cases running
  | moved m => exact m.not_rescheduled retired
  | retired _ r =>
    cases r with
    | asked => exact unasked (congrArg Call.reschedule (hc.keyed stored))
    | abandoned _ kept => exact kept cancelled

end Effect

/-- An agent ends its cancelled job when it gives that job up, and leaves it alone else. -/
theorem get?_releaseAbandoned_of_cancelled {b : Board} (hc : b.Coherent) (h : b.Numbered)
    {uuid : String} {id : BuildId} {j : Job} (now : Timestamp) (stored : b.get? id = some j)
    (own : j.agent = some uuid) (running : j.isTerminal = false) (cancelled : j.result = .cancelled) :
    (b.releaseAbandoned uuid now).2.get? id =
      some (if b.assignments.get? uuid = some id then j.enter .completed now else j) := by
  split_ifs with noted
  · have hid := hc.keyed stored
    subst hid
    rw [releaseAbandoned_of_running now noted stored own running, if_pos cancelled]
    exact (b.changed_commit (j.enter .completed now)).stored
  · -- The agent is noted with another job, if with any, and gives up that one.
    unfold releaseAbandoned
    cases hk : (b.assignments.get? uuid).bind b.get? with
    | none => exact stored
    | some k =>
      obtain ⟨last, hl, hk⟩ := Option.bind_eq_some_iff.1 hk
      have hid := hc.keyed hk
      subst hid
      have hne : id ≠ k.buildId := fun he => noted (he ▸ hl)
      dsimp only
      split_ifs with hq hr
      · exact stored
      · rw [get?_commit, Job.buildId_enter, if_neg hne]
        exact stored
      · have hq : k.isTerminal = false ∧ k.isAssignedTo uuid = true := by simpa using hq
        rw [reschedule_of_running now hk hq.1, get?_replace, if_neg (h.ne_nextId stored),
          if_neg hne]
        exact stored

theorem cancelled_of_cancel {b : Board} (hc : b.Coherent) {id : BuildId} {now : Timestamp}
    (h : (b.cancel id now).1 = .ok true) :
    ∃ j, (b.cancel id now).2.get? id = some j ∧ j.Cancelled := by
  unfold cancel at h ⊢
  cases hj : b.get? id with
  | none =>
    rw [hj] at h
    cases h
  | some j =>
    rw [hj] at h
    dsimp only at h ⊢
    cases hj' : j.cancel? now with
    | none =>
      rw [hj'] at h
      cases h
    | some j' =>
      obtain ⟨href, cancelled⟩ := Job.cancelled_of_cancel? hj'
      have hid : j'.buildId = id := (congrArg JobRef.buildId href).trans (hc.keyed hj)
      exact ⟨j', hid ▸ (changed_commit _ j').stored, cancelled⟩

theorem cancel_of_stored {b : Board} {id : BuildId} {j : Job} (stored : b.get? id = some j)
    (begun : j.result = .cancelled → j.state ≠ .scheduled) (now : Timestamp) :
    ∃ changed, (b.cancel id now).1 = .ok changed ∧
      (changed = false ↔ j.isTerminal = true ∨ j.result = .cancelled) ∧
      (changed = false → (b.cancel id now).2 = b) := by
  rw [← Job.cancel?_eq_none_iff begun now]
  unfold cancel
  rw [stored]
  dsimp only
  cases j.cancel? now with
  | none => exact ⟨false, rfl, by simp, fun _ => rfl⟩
  | some j' => exact ⟨true, rfl, by simp, by simp⟩

/-- What the log and the jobs say of cancellations. -/
structure Recalled (s : Session Board) : Prop where
  kept : ∀ id, (∃ e ∈ s.log, Cancels e id) → ∃ j, s.state.get? id = some j ∧ j.Cancelled
  known : ∀ id j, s.state.get? id = some j → j.result = .cancelled →
    (∃ e ∈ s.log, Cancels e id) ∨ ∃ uuid, j.agent = some uuid ∧ ∃ e ∈ s.log, TellsCancelled e uuid id

theorem recalled_start : Recalled (.start empty) where
  kept := by rintro id ⟨e, he, -⟩; cases he
  known := by intro id j h; cases h

theorem Recalled.call {s : Session Board} (h : Recalled s) (hc : s.state.Coherent)
    (hn : s.state.Numbered) (x : Step Call) : Recalled (s.call x) where
  kept := by
    rintro id ⟨e, he, hx⟩
    rw [Session.log_call, List.mem_append, List.mem_singleton] at he
    rcases he with he | rfl
    · obtain ⟨j, stored, cancelled⟩ := h.kept id ⟨e, he, hx⟩
      have e := hc.perform_effect x.now x.call
      obtain ⟨j', stored', hb⟩ := e.becomes stored (e.made?_ne hn stored)
      exact ⟨j', stored', hb.cancelled (hc.jobs stored) cancelled⟩
    · obtain ⟨hx, ha⟩ := hx
      change x.call = _ at hx
      change (s.state.perform x.now x.call).1 = _ at ha
      rw [state_call]
      rw [hx] at ha ⊢
      exact cancelled_of_cancel hc (Answer.cancelled.inj ha)
  known := by
    intro id j' stored' cancelled'
    have hlog : ∀ {P : Entry Call Answer → Prop}, (∃ e ∈ s.log, P e) → ∃ e ∈ (s.call x).log, P e :=
      fun ⟨e, he, hp⟩ => ⟨e, List.mem_append_left _ he, hp⟩
    have e := hc.perform_effect x.now x.call
    rcases e.origin stored' with ⟨j, stored, hb⟩ | ⟨-, -, ref, plan, rfl⟩
    · have hf := hb.follows (hc.jobs stored)
      -- Either the job was cancelled before, or the last call did it.
      by_cases cancelled : j.result = .cancelled
      · rcases h.known id j stored cancelled with hx | ⟨uuid, own, hx⟩
        · exact .inl (hlog hx)
        · exact .inr ⟨uuid, hf.agent own, hlog hx⟩
      · have hid := hc.keyed stored
        subst hid
        have hlast : ⟨x, (s.state.perform x.now x.call).1⟩ ∈ (s.call x).log :=
          List.mem_append_right _ (List.mem_singleton_self _)
        rcases hb.cancelled_by cancelled cancelled' with hx | ⟨uuid, own, hx⟩
        · exact .inl ⟨_, hlast, hx⟩
        · exact .inr ⟨uuid, hf.agent own, _, hlast, hx⟩
    · cases cancelled'

theorem Recalled.begun {s : Session Board} (h : Recalled s) (hc : s.state.Coherent) {id : BuildId}
    {j : Job} (stored : s.state.get? id = some j) (cancelled : j.result = .cancelled) :
    j.state ≠ .scheduled := by
  rcases h.known id j stored cancelled with hx | ⟨uuid, own, -⟩
  · obtain ⟨k, hk, hcancelled⟩ := h.kept id hx
    rw [stored] at hk
    cases hk
    exact hcancelled.begun
  · exact (hc.jobs stored).begun own

theorem recalled_session {steps : List (Step Call)}
    (few : (made (session steps).log).length < 2 ^ 64 - 1) : Recalled (session steps) :=
  session_induction recalled_start (fun _ x hc hn h => h.call hc hn x) steps few

/--
A job that an operator cancelled stays cancelled and is not handed out again. It is copied only if
an operator asks for that, and its agent ends it by giving it up; every new job was asked for or is
a copy. Jobs are cancelled by operators, or by the word of the agents that have them. To cancel a
job that has ended, or is cancelled, changes nothing.
-/
theorem cancellation_is_durable (steps : List (Step Call))
    (few : (made (session steps).log).length < 2 ^ 64 - 1) :
    (∀ id, (∃ e ∈ (session steps).log, Cancels e id) →
      ∃ j, (session steps).state.get? id = some j ∧ j.result = .cancelled) ∧
    (∀ earlier x later, steps = earlier ++ x :: later →
      let b := (session earlier).state
      let b' := (session (earlier ++ [x])).state
      (∀ id, (∃ e ∈ (session earlier).log, Cancels e id) →
        (b.perform x.now x.call).1.given? ≠ some id ∧
        (x.call ≠ .reschedule id → ∀ copy, ¬b.Copied b' id copy) ∧
        ∀ uuid j, x.call = .releaseAbandoned uuid → b.get? id = some j → j.agent = some uuid →
          j.isTerminal = false → b'.get? id =
            some (if b.assignments.get? uuid = some id then j.enter .completed x.now else j)) ∧
      ∀ copy k, b.get? copy = none → b'.get? copy = some k →
        x.call = .create k.request ∨ ∃ id, b.Copied b' id copy) ∧
    (∀ id j, (session steps).state.get? id = some j → j.result = .cancelled →
      (∃ e ∈ (session steps).log, Cancels e id) ∨
        ∃ uuid, j.agent = some uuid ∧ ∃ e ∈ (session steps).log, TellsCancelled e uuid id) ∧
    ∀ id j now, (session steps).state.get? id = some j →
      ∃ changed, ((session steps).state.cancel id now).1 = .ok changed ∧
        (changed = false ↔ j.isTerminal = true ∨ j.result = .cancelled) ∧
        (changed = false → ((session steps).state.cancel id now).2 = (session steps).state) := by
  have recalled := recalled_session few
  refine ⟨?_, ?_, recalled.known, ?_⟩
  · intro id hx
    obtain ⟨j, stored, cancelled⟩ := recalled.kept id hx
    exact ⟨j, stored, cancelled.result⟩
  · rintro earlier x later rfl b b'
    have hc : b.Coherent := coherent_session earlier
    have hn : b.Numbered := numbered_of_append few
    have e : b.Effect x.now x.call (b.perform x.now x.call).1 b' := effect_session earlier x
    have recalled := recalled_session ((made_length_le_append earlier (x :: later)).trans_lt few)
    refine ⟨fun id hx => ?_, fun copy k absent stored' => e.asked_or_copied hn absent stored'⟩
    obtain ⟨j, stored, cancelled⟩ := recalled.kept id hx
    refine ⟨?_, e.not_copied hc hn stored cancelled.result, ?_⟩
    · intro hg
      obtain ⟨_, k, _, -, hk, waits, -⟩ := e.of_given? hg
      rw [stored] at hk
      cases hk
      exact cancelled.begun waits
    · intro uuid k hx hk own running
      rw [stored] at hk
      cases hk
      have hr := get?_releaseAbandoned_of_cancelled hc hn x.now stored own running cancelled.result
      have hb : b' = (b.releaseAbandoned uuid x.now).2 := by
        change (session (earlier ++ [x])).state = _
        rw [session_concat, state_call, hx]
        rfl
      rwa [hb]
  · intro id j now stored
    exact cancel_of_stored stored (recalled.begun (coherent_session steps) stored) now

theorem cancellation_is_durable_contested :
    (made (session contested).log).length < 2 ^ 64 - 1 ∧
      (∃ e ∈ (session contested).log, Cancels e 1) ∧
      ∃ j, (session contested).state.get? 1 = some j ∧ j.result = .cancelled := by
  have few : (made (session contested).log).length < 2 ^ 64 - 1 := by decide
  have cancels : ∃ e ∈ (session contested).log, Cancels e 1 :=
    ⟨_, List.getElem_mem (show 7 < (session contested).log.length by decide), rfl, rfl⟩
  exact ⟨few, cancels, (cancellation_is_durable contested few).1 1 cancels⟩

end Board

end BuildDispatch
