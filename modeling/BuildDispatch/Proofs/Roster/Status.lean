import BuildDispatch.Proofs.Roster.Silence

/-!
The status of an agent. It follows a machine that is told of what was heard of that agent and of
nothing else (`Roster.nextStatus`), and outside operators' hands and lost contact it is what the
agent claimed last (`Roster.status_follows_machine`).
-/
namespace BuildDispatch

namespace Snapshot

/-- What a dispatcher alone may say of an agent is not taken from the agent. -/
theorem isSelfReported_reportedStatus (s : Snapshot) : s.reportedStatus.isSelfReported = true := by
  unfold reportedStatus
  split_ifs with self
  · exact self
  · rfl

end Snapshot

namespace Roster

open Timestamp (Exceeds)

/--
The status of an agent after an operation. The agent claimed the status `claimed` when it was heard
last, at the reading `seen`.
-/
def nextStatus (uuid : String) (claimed : AgentStatus) (seen : Timestamp)
    (e : Entry Operation Answer) (status : AgentStatus) : AgentStatus :=
  match e.call with
  | .issueCookie _ _ _ => status
  | .observe _ | .ping _ _ =>
    match heard? uuid e with
    | some (info, _) => if status.isHeld then status else info.reportedStatus
    | none => status
  | .approve u => if u = uuid ∧ status.isHeld = true then claimed else status
  | .disable u => if u = uuid then .disabled else status
  | .sweep timeout =>
    if status ∉ [.pending, .disabled, .lostContact] ∧ Exceeds timeout seen e.now then .lostContact
    else status

/-- What an operation may make of the status of an agent that claimed a status last. -/
structure Permitted (uuid : String) (claimed : AgentStatus) (e : Entry Operation Answer)
    (status status' : AgentStatus) : Prop where
  pending_left : status = .pending → status' ≠ .pending →
    e.call = .approve uuid ∧ status' = claimed ∨ e.call = .disable uuid ∧ status' = .disabled
  disabled_left : status = .disabled → status' ≠ .disabled →
    e.call = .approve uuid ∧ status' = claimed
  lost_entered : status ≠ .lostContact → status' = .lostContact →
    ∃ timeout, e.call = .sweep timeout
  lost_left : status = .lostContact → status' ≠ .lostContact →
    (heard? uuid e).isSome = true ∨ e.call = .disable uuid
  issueCookie : ∀ identity location cookie,
    e.call = .issueCookie identity location cookie → status' = status
  refused : ∀ b info, e.call = .observe info ∨ e.call = .ping b info → heard? uuid e = none →
    status' = status
  approve : ∀ u, e.call = .approve u → status.isHeld = false → status' = status

section Machine

variable {uuid : String} {claimed : AgentStatus} {e : Entry Operation Answer}

theorem permitted_refl (status : AgentStatus) : Permitted uuid claimed e status status where
  pending_left held left := absurd held left
  disabled_left held left := absurd held left
  lost_entered former lost := absurd lost former
  lost_left lost left := absurd lost left
  issueCookie _ _ _ _ := rfl
  refused _ _ _ _ := rfl
  approve _ _ _ := rfl

theorem Permitted.heard {h : Snapshot × Timestamp} {status : AgentStatus}
    (heard : heard? uuid e = some h) (unheld : status.isHeld = false) :
    Permitted uuid claimed e status h.1.reportedStatus where
  pending_left held _ := by
    rw [held] at unheld
    cases unheld
  disabled_left held _ := by
    rw [held] at unheld
    cases unheld
  lost_entered _ lost := by
    have self := h.1.isSelfReported_reportedStatus
    rw [lost] at self
    cases self
  lost_left _ _ := .inl (by rw [heard]; rfl)
  issueCookie _ _ _ call := by simp [heard?, call] at heard
  refused _ _ _ unheard := by cases heard.symm.trans unheard
  approve _ call _ := by simp [heard?, call] at heard

theorem Permitted.approved {status : AgentStatus} (call : e.call = .approve uuid)
    (held : status.isHeld = true) (self : claimed.isSelfReported = true) :
    Permitted uuid claimed e status claimed where
  pending_left _ _ := .inl ⟨call, rfl⟩
  disabled_left _ _ := ⟨call, rfl⟩
  lost_entered _ lost := by
    rw [lost] at self
    cases self
  lost_left lost _ := by
    rw [lost] at held
    cases held
  issueCookie _ _ _ other := by cases call.symm.trans other
  refused _ _ said _ := by rcases said with other | other <;> cases call.symm.trans other
  approve _ _ unheld := by cases held.symm.trans unheld

theorem Permitted.disabled (call : e.call = .disable uuid) (status : AgentStatus) :
    Permitted uuid claimed e status .disabled where
  pending_left _ _ := .inr ⟨call, rfl⟩
  disabled_left _ left := absurd rfl left
  lost_entered _ lost := by cases lost
  lost_left _ _ := .inr call
  issueCookie _ _ _ other := by cases call.symm.trans other
  refused _ _ said _ := by rcases said with other | other <;> cases call.symm.trans other
  approve _ other _ := by cases call.symm.trans other

theorem Permitted.lost {status : AgentStatus} {timeout : Duration} (call : e.call = .sweep timeout)
    (watched : status ∉ [.pending, .disabled, .lostContact]) :
    Permitted uuid claimed e status .lostContact where
  pending_left held _ := absurd (by simp [held]) watched
  disabled_left held _ := absurd (by simp [held]) watched
  lost_entered _ _ := ⟨timeout, call⟩
  lost_left _ left := absurd rfl left
  issueCookie _ _ _ other := by cases call.symm.trans other
  refused _ _ said _ := by rcases said with other | other <;> cases call.symm.trans other
  approve _ other _ := by cases call.symm.trans other

/-- The machine makes no other steps. -/
theorem permitted_nextStatus (self : claimed.isSelfReported = true) (seen : Timestamp)
    (status : AgentStatus) :
    Permitted uuid claimed e status (nextStatus uuid claimed seen e status) := by
  have spoken : Permitted uuid claimed e status
      (match heard? uuid e with
        | some (info, _) => if status.isHeld then status else info.reportedStatus
        | none => status) := by
    cases heard : heard? uuid e with
    | none => exact permitted_refl status
    | some h =>
      dsimp only
      split_ifs with held
      · exact permitted_refl status
      · exact .heard heard (by simpa using held)
  unfold nextStatus
  cases call : e.call with
  | issueCookie => exact permitted_refl status
  | observe | ping => exact spoken
  | approve u =>
    dsimp only
    split_ifs with own
    · obtain ⟨rfl, held⟩ := own
      exact .approved call held self
    · exact permitted_refl status
  | disable u =>
    dsimp only
    split_ifs with own
    · subst own
      exact .disabled call status
    · exact permitted_refl status
  | sweep timeout =>
    dsimp only
    split_ifs with silent
    · exact .lost call silent.1
    · exact permitted_refl status

end Machine

theorem status_after (r : Roster) {uuid : String} {a : AgentRecord} (known : r.get? uuid = some a)
    (x : Step Operation) : (a.after uuid x.now x.call.call).status =
      nextStatus uuid a.info.reportedStatus a.lastSeen (r.answered x) a.status := by
  have heard := r.heard?_answered uuid x
  have spoken (info : Snapshot) (hc : x.call.call = .observe info) :
      (a.after uuid x.now (.observe info)).status =
        match heard? uuid (r.answered x) with
        | some (info, _) => if a.status.isHeld then a.status else info.reportedStatus
        | none => a.status := by
    rw [heard, hc]
    dsimp only [AgentRecord.after, accepted?]
    by_cases own : info.uuid = uuid
    · subst own
      by_cases admitted : r.Admits info
      · rw [if_pos ⟨rfl, (r.admits_of_known known).2 admitted⟩, if_pos ⟨rfl, admitted⟩]
        rfl
      · rw [if_neg fun h => admitted ((r.admits_of_known known).1 h.2),
          if_neg fun h => admitted h.2]
        rfl
    · rw [if_neg fun h => own h.1, if_neg fun h => own h.1]
      rfl
  obtain ⟨o, now⟩ := x
  cases o with
  | observe info => exact spoken info rfl
  | ping b info => exact spoken info rfl
  | sweep timeout =>
    dsimp only [Operation.call, AgentRecord.after, nextStatus, answered]
    by_cases silent : isSilent a timeout.wholeMillis.toNat now = true
    · rw [if_pos silent, if_pos ((isSilent_iff _ _ _).1 silent)]
    · rw [if_neg silent, if_neg fun h => silent ((isSilent_iff _ _ _).2 h)]
  | _ =>
    simp only [Operation.call, AgentRecord.after, nextStatus, answered]
    split_ifs <;> rfl

end Roster

/-- An agent's status is what the agent claimed last, unless the dispatcher knows better. -/
def AgentRecord.Faithful (a : AgentRecord) : Prop :=
  a.status ∈ [.pending, .disabled, .lostContact] ∨ a.status = a.info.reportedStatus

theorem AgentRecord.faithful_first (autoRegister : Bool) (info : Snapshot) (now : Timestamp) :
    (first autoRegister info now).Faithful := by
  cases autoRegister with
  | false => exact .inl List.mem_cons_self
  | true => exact .inr rfl

theorem AgentRecord.Faithful.after {a : AgentRecord} (h : a.Faithful) (uuid : String)
    (now : Timestamp) (c : Roster.Call) : (a.after uuid now c).Faithful := by
  cases c with
  | observe info =>
    simp only [AgentRecord.after]
    split_ifs
    · change (if a.status.isHeld then a.status else info.reportedStatus) ∈ _ ∨
        (if a.status.isHeld then a.status else info.reportedStatus) = info.reportedStatus
      split_ifs with held
      · exact .inl (by cases hs : a.status <;> simp [hs, AgentStatus.isHeld] at held ⊢)
      · exact .inr rfl
    · exact h
  | issueCookie =>
    simp only [AgentRecord.after]
    split_ifs <;> exact h
  | approve =>
    simp only [AgentRecord.after]
    split_ifs
    · exact .inr rfl
    · exact h
  | disable | sweepLostContact =>
    simp only [AgentRecord.after]
    split_ifs
    · exact .inl (by simp)
    · exact h

namespace Roster

theorem faithful_session (autoRegister : Bool) (steps : List (Step Operation)) (uuid : String) :
    ∀ a, (session autoRegister steps).state.get? uuid = some a → a.Faithful := by
  refine Session.run_keeps (P := fun s : Session Roster =>
    ∀ a, s.state.get? uuid = some a → a.Faithful) ?_ (fun _ h => by cases h) steps
  intro s x before a' known'
  change (s.state.perform x.now x.call).2.get? uuid = some a' at known'
  rw [perform_snd, get?_after] at known'
  obtain ⟨a, hf, rfl⟩ := Option.map_eq_some_iff.1 known'
  refine AgentRecord.Faithful.after ?_ uuid x.now x.call.call
  rcases Option.or_eq_some_iff.1 hf with known | ⟨-, new⟩
  · exact before a known
  · obtain ⟨info, -, rfl⟩ := Option.map_eq_some_iff.1 new
    exact AgentRecord.faithful_first _ info x.now

theorem autoRegister_session (autoRegister : Bool) (steps : List (Step Operation)) :
    (session autoRegister steps).state.autoRegister = autoRegister := by
  refine Session.run_keeps (P := fun s : Session Roster => s.state.autoRegister = autoRegister)
    ?_ rfl steps
  intro s x before
  change (s.state.perform x.now x.call).2.autoRegister = autoRegister
  rw [perform_snd, autoRegister_after, before]

theorem status_after_of_new (r : Roster) {uuid : String} (absent : r.get? uuid = none)
    (now : Timestamp) (c : Call) : (r.after now c).status? uuid =
      (c.said? uuid).map fun info => if r.autoRegister then info.reportedStatus else .pending := by
  rw [status?, get?_after, found, absent]
  cases said : c.said? uuid with
  | none => rfl
  | some info =>
    refine congrArg some ?_
    change ((AgentRecord.first r.autoRegister info now).after uuid now c).status =
      (AgentRecord.first r.autoRegister info now).status
    cases c with
    | observe heard =>
      obtain ⟨-, rfl⟩ : heard.uuid = uuid ∧ heard = info := by simpa [Call.said?] using said
      simp only [AgentRecord.after]
      split_ifs
      · exact status_hear_first _ _ _
      · rfl
    | issueCookie =>
      simp only [AgentRecord.after]
      split_ifs <;> rfl
    | _ => cases said

/--
The status of an agent is held by an operator, or lost contact, or what the agent claimed when it
was heard last. It makes the steps of the machine. An agent starts out as it claims to be, or is
held until it is approved.
-/
theorem status_follows_machine (autoRegister : Bool) (uuid : String)
    (steps : List (Step Operation)) (x : Step Operation) :
    let s := session autoRegister steps
    let e := s.state.answered x
    let s' := session autoRegister (steps ++ [x])
    (∀ status, s.state.status? uuid = some status → ∃ info seen status',
      lastHeard? uuid s.log = some (info, seen) ∧
      (status ∈ [.pending, .disabled, .lostContact] ∨ status = info.reportedStatus) ∧
      status ≠ .missing ∧ s'.state.status? uuid = some status' ∧
      status' = nextStatus uuid info.reportedStatus seen e status ∧
      Permitted uuid info.reportedStatus e status status') ∧
    (s.state.status? uuid = none → s'.state.status? uuid =
      ((heard? uuid e).or (introduced? uuid e)).map fun h =>
        if autoRegister then h.1.reportedStatus else .pending) := by
  intro s e s'
  have after : s'.state = s.state.after x.now x.call.call := by
    rw [← perform_snd]
    exact congrArg Session.state (session_concat autoRegister steps x)
  constructor
  · intro status hs
    obtain ⟨a, known, rfl⟩ := Option.map_eq_some_iff.1 hs
    obtain ⟨info, last, claimed⟩ := lastHeard?_of_known autoRegister known
    have faithful : a.status ∈ [.pending, .disabled, .lostContact] ∨
        a.status = info.reportedStatus := by
      rw [claimed]
      exact faithful_session autoRegister steps uuid a known
    have self := info.isSelfReported_reportedStatus
    refine ⟨info, a.lastSeen, nextStatus uuid info.reportedStatus a.lastSeen e a.status, last,
      faithful, ?_, ?_, rfl, permitted_nextStatus self _ _⟩
    · rintro missing
      rcases faithful with other | claims
      · simp [missing] at other
      · rw [← claims, missing] at self
        cases self
    · rw [after, status?, get?_after, found_of_known _ _ known, claimed]
      exact congrArg some (s.state.status_after known x)
  · intro hs
    have absent : s.state.get? uuid = none := by simpa [status?] using hs
    rw [after, status_after_of_new _ absent, heard_or_introduced _ _ absent, Option.map_map,
      autoRegister_session]
    rfl

/-- An agent that cancels its job loses contact, is disabled and asks for a cookie elsewhere. -/
def detour : List (Step Operation) :=
  let identity : AgentIdentity := ⟨"host", "10.0.0.1", "u1"⟩
  [⟨.observe (Snapshot.fresh identity "/agent").cancelled, 5⟩, ⟨.sweep (.ofMillis 1), 7⟩,
    ⟨.disable "u1", 8⟩, ⟨.issueCookie { identity with hostname := "other" } "/else" ⟨"c1"⟩, 4⟩]

theorem status_follows_machine_detour :
    let s := session true detour
    let s' := session true (detour ++ [⟨.approve "u1", 9⟩])
    s.state.status? "u1" = some .disabled ∧ s'.state.status? "u1" = some .cancelled := by
  intro s s'
  have disabled : s.state.status? "u1" = some .disabled := by decide
  obtain ⟨info, seen, _, last, -, -, after, rfl, -⟩ :=
    (status_follows_machine true "u1" detour ⟨.approve "u1", 9⟩).1 .disabled disabled
  have claimed : (lastHeard? "u1" s.log).map (·.1.reportedStatus) = some .cancelled := by decide
  rw [last] at claimed
  exact ⟨disabled, after.trans claimed⟩

end Roster

end BuildDispatch
