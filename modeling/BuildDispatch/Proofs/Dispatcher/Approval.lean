import BuildDispatch.Proofs.Dispatcher.Contact
import BuildDispatch.Proofs.Dispatcher.OneJob

/-!
Approval: an agent that was disabled, or registered unapproved, gets no job and gives none up until
an operator approves it (`Dispatcher.no_work_until_approved`).
-/
namespace BuildDispatch

namespace Board

theorem Quiet.owned {b b' : Board} (q : b.Quiet b') (h : b.Tended) {uuid : String} {id : BuildId}
    {j' : Job} (stored' : b'.get? id = some j') (own' : j'.agent = some uuid) :
    ∃ j, b.get? id = some j ∧ j.agent = some uuid := by
  have owned : ∀ j', b'.get? id = some j' → j'.agent = some uuid →
      ∃ j, b.get? id = some j ∧ j.agent = some uuid := by
    refine q.keeps (P := fun k => ∀ j', k.get? id = some j' → j'.agent = some uuid →
      ∃ j, b.get? id = some j ∧ j.agent = some uuid) h ?_ (fun _ hk => hk) fun j hj ho => ⟨j, hj, ho⟩
    intro k k' now c a quiet tended e ih j' stored' own'
    rcases e.owned tended.coherent stored' own' with ⟨j, stored, own, -⟩ | ⟨info, hc, -⟩
    · exact ih j stored own
    · exact absurd hc (quiet info)
  exact owned j' stored' own'

/-- The next job of an agent becomes no job of another agent. -/
theorem Tended.owned_nextAssignment {b : Board} (h : b.Tended) {info : Snapshot} {now : Timestamp}
    {uuid : String} (other : info.uuid ≠ uuid) {id : BuildId} {j' : Job}
    (stored' : (Dispatcher.nextAssignment b info now).2.get? id = some j')
    (own' : j'.agent = some uuid) : ∃ j, b.get? id = some j ∧ j.agent = some uuid := by
  have released := h.coherent.releaseAbandoned_effect now info.uuid
  have given := h.nextAssignment_effect info now
  have coherent := released.coherent h.coherent
  rcases given.owned coherent stored' own' with ⟨k, hk, ownk, -⟩ | ⟨_, hc, hu, -⟩
  · rcases released.owned h.coherent hk ownk with ⟨j, stored, own, -⟩ | ⟨_, hc, -⟩
    · exact ⟨j, stored, own⟩
    · cases hc
  · cases hc
    exact absurd hu other

end Board

namespace Dispatcher

theorem autoRegister_session (config : Config) (payload : PayloadStore) (steps : List (Step Call)) :
    (session config payload steps).state.roster.autoRegister = config.autoRegister := by
  refine Session.run_keeps (P := fun s : Session Dispatcher =>
    s.state.roster.autoRegister = config.autoRegister) ?_ rfl steps
  intro s x h
  change (s.state.perform x.now x.call).2.roster.autoRegister = _
  rw [roster_perform, ← h]
  cases x.call.onRoster? with
  | none => rfl
  | some c => exact Roster.autoRegister_after _ _ c

/-- Why an agent is denied work after these calls, the first of which withheld it. -/
def reasonOf (uuid : String) (steps : List (Step Call)) : DenyReason :=
  if ∃ z ∈ steps, z.call = .disableAgent uuid then .disabled else .awaitingApproval

theorem reasonOf_concat (uuid : String) (steps : List (Step Call)) (z : Step Call) :
    reasonOf uuid (steps ++ [z]) =
      if z.call = .disableAgent uuid then .disabled else reasonOf uuid steps := by
  unfold reasonOf
  by_cases hz : z.call = .disableAgent uuid
  · have hs : ∃ y ∈ steps ++ [z], y.call = .disableAgent uuid := ⟨z, by simp, hz⟩
    rw [if_pos hs, if_pos hz]
  · rw [if_neg hz]
    simp [hz]

/-- A call withholds an agent from work: it disables the agent, or registers it unapproved. -/
inductive Withholds (config : Config) (d : Dispatcher) (x : Step Call) (uuid : String) : Prop
  | disabled (asked : x.call = .disableAgent uuid) (known : (d.roster.get? uuid).isSome = true)
  | registered (unapproved : config.autoRegister = false) (absent : d.roster.get? uuid = none)
    (present : ((d.perform x.now x.call).2.roster.get? uuid).isSome = true)

structure Denied (d : Dispatcher) (uuid : String) (reason : DenyReason) : Prop where
  known : (d.roster.get? uuid).isSome = true
  denial : d.roster.denial? uuid = some reason

theorem Denied.perform {d : Dispatcher} {uuid : String} {reason : DenyReason}
    (h : d.Denied uuid reason) (now : Timestamp) {c : Call} (unapproved : c ≠ .approveAgent uuid) :
    (d.perform now c).2.Denied uuid (if c = .disableAgent uuid then .disabled else reason) := by
  have hr := roster_perform d now c
  cases ho : c.onRoster? with
  | none =>
    have hd : c ≠ .disableAgent uuid := by
      rintro rfl
      cases ho
    rw [ho] at hr
    rw [if_neg hd]
    exact ⟨hr ▸ h.known, hr ▸ h.denial⟩
  | some k =>
    rw [ho] at hr
    change _ = d.roster.after now k at hr
    refine ⟨hr ▸ Roster.isSome_get?_after now h.known k, ?_⟩
    rw [hr, Roster.denial?_after now h.known, h.denial]
    cases c with
    | approveAgent u =>
      have hu : u ≠ uuid := fun hu => unapproved (congrArg Call.approveAgent hu)
      cases ho
      simp [Roster.Call.denial?, hu]
    | disableAgent u =>
      cases ho
      by_cases hu : u = uuid
      · simp [Roster.Call.denial?, hu]
      · simp [Roster.Call.denial?, hu]
    | _ =>
      cases ho <;> rfl

theorem Withholds.denied {config : Config} {d : Dispatcher} {x : Step Call} {uuid : String}
    (h : Withholds config d x uuid) (same : d.roster.autoRegister = config.autoRegister) :
    (d.perform x.now x.call).2.Denied uuid (reasonOf uuid [x]) := by
  obtain ⟨c, now⟩ := x
  cases h with
  | disabled asked known =>
    change c = .disableAgent uuid at asked
    subst asked
    have hr := roster_perform d now (.disableAgent uuid)
    change _ = d.roster.after now (.disable uuid) at hr
    refine ⟨hr ▸ Roster.isSome_get?_after now known _, ?_⟩
    rw [hr, Roster.denial?_after now known]
    simp [Roster.Call.denial?, reasonOf]
  | registered unapproved absent present =>
    have hr := roster_perform d now c
    change (Roster.get? (d.perform now c).2.roster uuid).isSome = true at present
    refine ⟨present, ?_⟩
    cases ho : c.onRoster? with
    | none =>
      rw [hr, ho] at present
      change (d.roster.get? uuid).isSome = true at present
      rw [absent] at present
      cases present
    | some k =>
      rw [ho] at hr
      change _ = d.roster.after now k at hr
      rw [hr] at present ⊢
      -- A call that disables registers nobody.
      have hd : c ≠ .disableAgent uuid := by
        rintro rfl
        cases ho
        obtain ⟨info, said⟩ := Roster.said_of_new now absent present
        cases said
      have reason : reasonOf uuid [⟨c, now⟩] = .awaitingApproval := by simp [reasonOf, hd]
      rw [reason]
      exact Roster.denial?_after_of_new now (same.trans unapproved) absent present

theorem denied_session {config : Config} {payload : PayloadStore} {earlier : List (Step Call)}
    {x : Step Call} {uuid : String}
    (withheld : Withholds config (session config payload earlier).state x uuid)
    {later : List (Step Call)} (unapproved : ∀ z ∈ later, z.call ≠ .approveAgent uuid) :
    (session config payload (earlier ++ x :: later)).state.Denied uuid
      (reasonOf uuid (x :: later)) := by
  induction later using List.reverseRecOn with
  | nil =>
    rw [session_concat]
    exact withheld.denied (autoRegister_session config payload earlier)
  | append_singleton before z ih =>
    have denied := ih fun y hy => unapproved y (List.mem_append_left _ hy)
    have hz : z.call ≠ .approveAgent uuid := unapproved z (by simp)
    have hs : earlier ++ x :: (before ++ [z]) = (earlier ++ x :: before) ++ [z] := by simp
    rw [hs, session_concat, ← List.cons_append, reasonOf_concat]
    exact denied.perform z.now hz

theorem denied_perform {config : Config} {payload : PayloadStore} {earlier : List (Step Call)}
    {x : Step Call} {uuid : String}
    (withheld : Withholds config (session config payload earlier).state x uuid)
    {later : List (Step Call)} (unapproved : ∀ z ∈ later, z.call ≠ .approveAgent uuid)
    {before after : List (Step Call)} {y : Step Call} (split : x :: later = before ++ y :: after) :
    ((session config payload (earlier ++ before)).state.perform y.now y.call).2.Denied uuid
      (reasonOf uuid (before ++ [y])) := by
  have upTo : before ++ [y] <+: x :: later := ⟨after, by simp [split]⟩
  rcases List.prefix_cons_iff.1 upTo with empty | ⟨rest, first, others⟩
  · simp at empty
  · have kept : ∀ z ∈ rest, z.call ≠ .approveAgent uuid :=
      fun z hz => unapproved z (others.subset hz)
    have denied := denied_session withheld kept
    rw [← first, ← List.append_assoc, session_concat] at denied
    exact denied

/-- An agent that is denied work gets its answer, and keeps its job. -/
theorem getWork_of_denied {d : Dispatcher} {info : Snapshot} {now : Timestamp} {reason : DenyReason}
    (h : (d.getWork info now).2.Denied info.uuid reason) :
    ((d.getWork info now).1 = .ok (.deny reason) ∨
      (d.getWork info now).1 = .error (.roster (.cookieMismatch info.uuid))) ∧
    (d.getWork info now).2.board = d.board := by
  have denial := h.denial
  rw [roster_getWork] at denial
  by_cases admitted : d.roster.Admits info
  · obtain ⟨status, r, hs, seen⟩ := d.roster.observe_of_admits now admitted
    rw [hs, Roster.denial?, seen] at denial
    change status.denial? = some reason at denial
    unfold getWork
    rw [hs]
    cases status with
    | pending =>
      cases denial
      exact ⟨.inl rfl, rfl⟩
    | disabled =>
      cases denial
      exact ⟨.inl rfl, rfl⟩
    | _ => cases denial
  · have hr := d.roster.observe_of_not_admits now admitted
    unfold getWork
    rw [hr]
    exact ⟨.inr rfl, rfl⟩

/-- A call gives no job to an agent that is denied work. -/
theorem owned_of_denied {d : Dispatcher} (h : d.board.Tended) {x : Step Call} {uuid : String}
    {reason : DenyReason} (denied : (d.perform x.now x.call).2.Denied uuid reason) {id : BuildId}
    {j' : Job} (stored' : (d.perform x.now x.call).2.board.get? id = some j')
    (own' : j'.agent = some uuid) : ∃ j, d.board.get? id = some j ∧ j.agent = some uuid := by
  obtain ⟨c, now⟩ := x
  rcases perform_cases d now c with ⟨info, rfl, -, hb⟩ | ⟨-, quiet⟩
  · by_cases hu : info.uuid = uuid
    · subst hu
      have kept : (d.perform now (.getWork info)).2.board = d.board := (getWork_of_denied denied).2
      rw [kept] at stored'
      exact ⟨j', stored', own'⟩
    · rw [hb] at stored'
      exact h.owned_nextAssignment hu stored' own'
  · exact quiet.owned h stored' own'

/--
From the call on by which an agent is disabled, or registered unapproved, no call but an approval
gives it a job. When it asks for work it is denied, and no job changes.
-/
theorem no_work_until_approved (config : Config) (payload : PayloadStore)
    (earlier : List (Step Call)) (x : Step Call) (later : List (Step Call)) (uuid : String)
    (withheld : Withholds config (session config payload earlier).state x uuid)
    (unapproved : ∀ z ∈ later, z.call ≠ .approveAgent uuid) :
    ∀ before y after, x :: later = before ++ y :: after →
      let d := (session config payload (earlier ++ before)).state
      let answer := (d.perform y.now y.call).1
      let d' := (d.perform y.now y.call).2
      (∀ info, y.call = .getWork info → info.uuid = uuid →
        (answer = .work (.ok (.deny (reasonOf uuid before))) ∨
          answer = .work (.error (.roster (.cookieMismatch uuid)))) ∧ d'.board = d.board) ∧
      ∀ id j', d'.board.get? id = some j' → j'.agent = some uuid →
        ∃ j, d.board.get? id = some j ∧ j.agent = some uuid := by
  intro before y after hs d
  have tended : d.board.Tended := (tended_session config payload (earlier ++ before)).board
  have denied := denied_perform withheld unapproved hs
  constructor
  · intro info asked hu
    have hn : y.call ≠ .disableAgent uuid := by
      rw [asked]
      simp
    rw [reasonOf_concat, if_neg hn] at denied
    subst hu
    rw [asked] at denied ⊢
    obtain ⟨answer, kept⟩ := getWork_of_denied denied
    exact ⟨answer.imp (congrArg Reply.work) (congrArg Reply.work), kept⟩
  · intro id j' stored' own'
    exact owned_of_denied tended denied stored' own'

theorem no_work_until_approved_disabled :
    let config := { site with autoRegister := false }
    let info := Snapshot.fresh ⟨"host", "10.0.0.1", "u1"⟩ "/agent"
    let earlier : List (Step Call) := [⟨.trigger (.material "site" [⟨"repo", "r1"⟩]), 5⟩]
    let before : List (Step Call) := [⟨.getWork info, 6⟩, ⟨.disableAgent "u1", 7⟩]
    let d := (session config (.new none none) (earlier ++ before)).state
    let answer := (d.perform 8 (.getWork info)).1
    Withholds config (session config (.new none none) earlier).state ⟨.getWork info, 6⟩ "u1" ∧
      (answer = .work (.ok (.deny .disabled)) ∨
        answer = .work (.error (.roster (.cookieMismatch "u1")))) ∧
      (d.perform 8 (.getWork info)).2.board = d.board := by
  intro config info earlier before d answer
  have withheld : Withholds config (session config (.new none none) earlier).state
      ⟨.getWork info, 6⟩ "u1" := .registered rfl rfl (by decide +kernel)
  have kept : ∀ z ∈ [⟨.disableAgent "u1", 7⟩, (⟨.getWork info, 8⟩ : Step Call)],
      z.call ≠ .approveAgent "u1" := by decide
  have reason : reasonOf "u1" before = .disabled := by decide
  obtain ⟨denied, -⟩ := no_work_until_approved config (.new none none) earlier
    ⟨.getWork info, 6⟩ [⟨.disableAgent "u1", 7⟩, ⟨.getWork info, 8⟩] "u1" withheld kept
    before ⟨.getWork info, 8⟩ [] rfl
  have hd := denied info rfl rfl
  rw [reason] at hd
  exact ⟨withheld, hd⟩

end Dispatcher

end BuildDispatch
