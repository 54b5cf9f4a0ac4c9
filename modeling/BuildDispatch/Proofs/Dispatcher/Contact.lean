import BuildDispatch.Proofs.Dispatcher.Call
import BuildDispatch.Proofs.Roster.Gate

/-!
What calls on a dispatcher do to its roster (`Dispatcher.roster_perform`), and which of them fail
because of a cookie (`Dispatcher.mismatch_iff`).
-/
namespace BuildDispatch.Dispatcher

def Call.onRoster? : Call → Option Roster.Call
  | .ping info | .getWork info | .report info _ _ => some (.observe info)
  | .getCookie identity location cookie => some (.issueCookie identity location cookie)
  | .approveAgent uuid => some (.approve uuid)
  | .disableAgent uuid => some (.disable uuid)
  | .sweepLostContact timeout => some (.sweepLostContact timeout)
  | .trigger _ | .cancelJob _ | .rescheduleJob _ => none

/-- What an agent says of itself with a call, if it has to show its cookie. -/
def Call.speaker? : Call → Option Snapshot
  | .ping info | .getWork info | .report info _ _ => some info
  | _ => none

def errorOf? {α : Type} : Except DispatchError α → Option DispatchError
  | .ok _ => none
  | .error e => some e

def Reply.error? : Reply → Option DispatchError
  | .instruction answer => errorOf? answer
  | .work answer => errorOf? answer
  | .heard answer => errorOf? answer
  | .cancelled answer => errorOf? answer
  | .rescheduled answer => errorOf? answer
  | .approved answer => errorOf? answer
  | .disabled answer => errorOf? answer
  | .cookie _ | .scheduled _ | .lost _ => none

def Reply.Mismatch (answer : Reply) : Prop :=
  ∃ e, answer.error? = some e ∧ e.kind = .cookieMismatch

variable (d : Dispatcher) (now : Timestamp)

@[simp] theorem roster_ofRoster {α : Type} (x : Except RosterError α × Roster) :
    (d.ofRoster x).2.roster = x.2 := by
  obtain ⟨a, r⟩ := x
  cases a <;> rfl

@[simp] theorem roster_ofBoard {α : Type} (x : Except JobError α × Board) :
    (d.ofBoard x).2.roster = d.roster := by
  obtain ⟨a, b⟩ := x
  cases a <;> rfl

theorem roster_nextWork (info : Snapshot) : (d.nextWork info now).2.roster = d.roster := by
  by_cases busy : info.status ≠ .idle ∨ info.currentJob.isSome = true
  · rw [nextWork_of_busy _ now busy]
  · obtain ⟨idle, free⟩ : info.status = .idle ∧ info.currentJob = none := by simpa using busy
    rw [nextWork_of_idle _ now idle free]
    rfl

theorem roster_getWork (info : Snapshot) :
    (d.getWork info now).2.roster = (d.roster.observe info now).2 := by
  unfold getWork
  rcases hs : d.roster.observe info now with ⟨_ | s, r⟩
  · rfl
  · cases s with
    | pending => rfl
    | disabled => rfl
    | _ => exact roster_nextWork { d with roster := r } now info

theorem roster_perform (c : Call) :
    (d.perform now c).2.roster = c.onRoster?.elim d.roster (d.roster.after now) := by
  cases c with
  | ping info =>
    change (d.ofRoster (d.roster.ping d.board info now)).2.roster = (d.roster.observe info now).2
    rw [roster_ofRoster]
    unfold Roster.ping
    rcases d.roster.observe info now with ⟨_ | s, r⟩ <;> rfl
  | getWork info => exact roster_getWork d now info
  | report info job r =>
    change (d.hear info job now r).2.roster = (d.roster.observe info now).2
    rw [hear_eq]
    unfold report
    rcases d.roster.observe info now with ⟨_ | s, r⟩
    · rfl
    · exact roster_ofBoard _ _
  | getCookie identity location cookie => rfl
  | trigger t => rfl
  | cancelJob id => exact roster_ofBoard _ _
  | rescheduleJob id => exact roster_ofBoard _ _
  | approveAgent uuid => exact roster_ofRoster _ _
  | disableAgent uuid => exact roster_ofRoster _ _
  | sweepLostContact timeout => rfl

theorem perform_of_not_admits {c : Call} {info : Snapshot} (said : c.speaker? = some info)
    (refused : ¬d.roster.Admits info) :
    (d.perform now c).1.error? = some (.roster (.cookieMismatch info.uuid)) ∧
      (d.perform now c).2 = d := by
  have hr := d.roster.observe_of_not_admits now refused
  cases c with
  | ping =>
    cases said
    simp [perform, ping, Roster.ping, hr, ofRoster, Reply.error?, errorOf?]
  | getWork =>
    cases said
    simp [perform, getWork, hr, ofRoster, Reply.error?, errorOf?]
  | report =>
    cases said
    simp [perform, hear_eq, report, hr, ofRoster, Reply.error?, errorOf?]
  | _ => cases said

section Mismatch

variable {e : DispatchError}

theorem kind_ofBoard {α : Type} {x : Except JobError α × Board}
    (h : errorOf? (d.ofBoard x).1 = some e) : e.kind ≠ .cookieMismatch := by
  obtain ⟨error | a, b⟩ := x
  · cases h
    cases error <;> simp [DispatchError.kind]
  · cases h

theorem kind_approve {uuid : String}
    (h : errorOf? (d.approveAgent uuid now).1 = some e) : e.kind ≠ .cookieMismatch := by
  unfold approveAgent Roster.approve at h
  cases known : d.roster.get? uuid with
  | none =>
    rw [known] at h
    cases h
    simp [DispatchError.kind]
  | some a =>
    rw [known] at h
    dsimp only at h
    split_ifs at h <;> cases h

theorem kind_disable {uuid : String}
    (h : errorOf? (d.disableAgent uuid now).1 = some e) : e.kind ≠ .cookieMismatch := by
  unfold disableAgent Roster.disable at h
  cases known : d.roster.get? uuid with
  | none =>
    rw [known] at h
    cases h
    simp [DispatchError.kind]
  | some a =>
    rw [known] at h
    cases h

theorem kind_of_admits {c : Call} {info : Snapshot} (said : c.speaker? = some info)
    (admitted : d.roster.Admits info) (h : (d.perform now c).1.error? = some e) :
    e.kind ≠ .cookieMismatch := by
  obtain ⟨status, r, hs, -⟩ := d.roster.observe_of_admits now admitted
  cases c with
  | ping =>
    cases said
    simp [perform, ping, Roster.ping, hs, ofRoster, Reply.error?, errorOf?] at h
  | getWork =>
    cases said
    cases status <;> simp [perform, getWork, hs, ofRoster, Reply.error?, errorOf?] at h
  | report _ job heard =>
    cases said
    simp only [perform, hear_eq, report, hs, ofRoster] at h
    exact kind_ofBoard _ h
  | _ => cases said

theorem kind_of_unspoken {c : Call} (unspoken : c.speaker? = none)
    (h : (d.perform now c).1.error? = some e) : e.kind ≠ .cookieMismatch := by
  cases c with
  | cancelJob id => exact kind_ofBoard d h
  | rescheduleJob id => exact kind_ofBoard d h
  | approveAgent uuid => exact kind_approve d now h
  | disableAgent uuid => exact kind_disable d now h
  | ping => cases unspoken
  | getWork => cases unspoken
  | report => cases unspoken
  | getCookie => cases h
  | trigger => cases h
  | sweepLostContact => cases h

end Mismatch

/-- The calls that fail because of a cookie are those of agents that do not show theirs. -/
theorem mismatch_iff (c : Call) : (d.perform now c).1.Mismatch ↔
    ∃ info, c.speaker? = some info ∧ ¬d.roster.Admits info := by
  constructor
  · rintro ⟨e, he, hk⟩
    cases said : c.speaker? with
    | none => exact absurd hk (kind_of_unspoken d now said he)
    | some info =>
      refine ⟨info, rfl, fun admitted => ?_⟩
      exact absurd hk (kind_of_admits d now said admitted he)
  · rintro ⟨info, said, refused⟩
    exact ⟨_, (perform_of_not_admits d now said refused).1, rfl⟩

end BuildDispatch.Dispatcher
