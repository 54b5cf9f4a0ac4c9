import BuildDispatch.Proofs.Roster.Gate
import BuildDispatch.Proofs.Session

/-!
Sessions on a roster. What was heard of an agent last can be read off the operations and their
answers (`Roster.lastHeard?`), and it is what the roster keeps of that agent
(`Roster.heardOf_session`).
-/
namespace BuildDispatch

namespace Roster

/-- What is asked of a roster. -/
inductive Operation where
  | issueCookie (identity : AgentIdentity) (location : String) (cookie : Cookie)
  | observe (info : Snapshot)
  /-- What the agent is told depends on the board. -/
  | ping (b : Board) (info : Snapshot)
  | approve (uuid : String)
  | disable (uuid : String)
  | sweep (timeout : Duration)

inductive Answer where
  | cookie (issued : Cookie)
  | observed (status : Except RosterError AgentStatus)
  | told (instruction : Except RosterError Instruction)
  | approved (status : Except RosterError AgentStatus)
  | disabled (done : Except RosterError Unit)
  | lost (uuids : List String)

def perform (r : Roster) (now : Timestamp) : Operation → Answer × Roster
  | .issueCookie identity location cookie =>
    (.cookie cookie, r.issueCookie identity location cookie now)
  | .observe info =>
    let (status, r) := r.observe info now
    (.observed status, r)
  | .ping b info =>
    let (instruction, r) := r.ping b info now
    (.told instruction, r)
  | .approve uuid =>
    let (status, r) := r.approve uuid now
    (.approved status, r)
  | .disable uuid =>
    let (done, r) := r.disable uuid now
    (.disabled done, r)
  | .sweep timeout =>
    let (uuids, r) := r.sweep timeout now
    (.lost uuids, r)

instance : Responder Roster Operation Answer := ⟨perform⟩

/-- The operations on a new roster. -/
def session (autoRegister : Bool) (steps : List (Step Operation)) : Session Roster :=
  (Session.start (.new autoRegister)).run steps

theorem session_concat (autoRegister : Bool) (steps : List (Step Operation)) (x : Step Operation) :
    session autoRegister (steps ++ [x]) = (session autoRegister steps).call x :=
  Session.run_concat _ _ _

def answered (r : Roster) (x : Step Operation) : Entry Operation Answer :=
  ⟨x, (r.perform x.now x.call).1⟩

def Operation.call : Operation → Call
  | .issueCookie identity location cookie => .issueCookie identity location cookie
  | .observe info | .ping _ info => .observe info
  | .approve uuid => .approve uuid
  | .disable uuid => .disable uuid
  | .sweep timeout => .sweepLostContact timeout.wholeMillis.toNat

/-- What an agent said in a call that was let in, and when. -/
def heard? (uuid : String) (e : Entry Operation Answer) : Option (Snapshot × Timestamp) :=
  match e.call, e.answer with
  | .observe info, .observed (.ok _) => if info.uuid = uuid then some (info, e.now) else none
  | .ping _ info, .told (.ok _) => if info.uuid = uuid then some (info, e.now) else none
  | _, _ => none

/-- What an agent is taken to say when it asks for a cookie. -/
def introduced? (uuid : String) (e : Entry Operation Answer) : Option (Snapshot × Timestamp) :=
  match e.call with
  | .issueCookie identity location _ =>
    if identity.uuid = uuid then some (.fresh identity location, e.now) else none
  | _ => none

/-- What was heard of an agent last, and when. It has introduced itself if it said nothing yet. -/
def lastHeard? (uuid : String) (log : List (Entry Operation Answer)) :
    Option (Snapshot × Timestamp) :=
  (log.filterMap (heard? uuid)).getLast?.or (log.filterMap (introduced? uuid)).head?

theorem lastHeard?_call (s : Session Roster) (x : Step Operation) (uuid : String) :
    lastHeard? uuid (s.call x).log = (heard? uuid (s.state.answered x)).or
      ((lastHeard? uuid s.log).or (introduced? uuid (s.state.answered x))) := by
  have said := s.getLast?_filterMap_call x (heard? uuid)
  change _ = (heard? uuid (s.state.answered x)).or _ at said
  have introduced := s.filterMap_log_call x (introduced? uuid)
  change _ = _ ++ (introduced? uuid (s.state.answered x)).toList at introduced
  unfold lastHeard?
  rw [said, introduced, List.head?_append, Option.head?_toList, Option.or_assoc, Option.or_assoc]

def claim (h : Snapshot × Timestamp) : AgentStatus × Timestamp := (h.1.reportedStatus, h.2)

end Roster

def AgentRecord.heard (a : AgentRecord) : AgentStatus × Timestamp :=
  (a.info.reportedStatus, a.lastSeen)

namespace Roster

variable (r : Roster) (now : Timestamp) (uuid : String)

def heardOf (r : Roster) (uuid : String) : Option (AgentStatus × Timestamp) :=
  (r.get? uuid).map AgentRecord.heard

@[simp] theorem perform_snd (o : Operation) : (r.perform now o).2 = r.after now o.call := by
  cases o with
  | ping b info =>
    change (r.ping b info now).2 = (r.observe info now).2
    unfold ping
    rcases r.observe info now with ⟨_ | s, r'⟩ <;> rfl
  | _ => rfl

/-- What is taken in of what a call says of an agent. -/
def accepted? (r : Roster) (uuid : String) : Call → Option Snapshot
  | .observe info => if info.uuid = uuid ∧ r.Admits info then some info else none
  | _ => none

theorem heard?_answered (x : Step Operation) :
    heard? uuid (r.answered x) = (r.accepted? uuid x.call.call).map (·, x.now) := by
  obtain ⟨o, now⟩ := x
  cases o with
  | observe info =>
    change heard? uuid ⟨⟨.observe info, now⟩, .observed (r.observe info now).1⟩ = _
    by_cases admitted : r.Admits info
    · obtain ⟨status, r', answer, -⟩ := r.observe_of_admits now admitted
      simp only [answer, heard?, accepted?, Operation.call, admitted, and_true]
      split_ifs <;> rfl
    · simp [r.observe_of_not_admits now admitted, heard?, accepted?, Operation.call, admitted]
  | ping b info =>
    change heard? uuid ⟨⟨.ping b info, now⟩, .told (r.ping b info now).1⟩ = _
    unfold ping
    by_cases admitted : r.Admits info
    · obtain ⟨status, r', answer, -⟩ := r.observe_of_admits now admitted
      simp only [answer, heard?, accepted?, Operation.call, admitted, and_true]
      split_ifs <;> rfl
    · simp [r.observe_of_not_admits now admitted, heard?, accepted?, Operation.call, admitted]
  | _ => rfl

theorem met_of_known {a : AgentRecord} {info : Snapshot} (known : r.get? info.uuid = some a) :
    r.met now info = a := by
  rw [met, known]
  rfl

theorem met_of_new {info : Snapshot} (absent : r.get? info.uuid = none) :
    r.met now info = .first r.autoRegister info now := by
  rw [met, absent]
  rfl

variable {r uuid}

theorem status?_of_known {a : AgentRecord} (known : r.get? uuid = some a) :
    r.status? uuid = some a.status := by
  rw [status?, known]
  rfl

theorem heardOf_of_known {a : AgentRecord} (known : r.get? uuid = some a) :
    r.heardOf uuid = some a.heard := by
  rw [heardOf, known]
  rfl

end Roster

/-- A call changes what is kept of an agent's word only if it is one that is let in. -/
theorem AgentRecord.heard_after (a : AgentRecord) (uuid : String) (now : Timestamp)
    (c : Roster.Call) : (a.after uuid now c).heard =
      match c with
      | .observe info =>
        if info.uuid = uuid ∧ a.admits info = true then (info.reportedStatus, now) else a.heard
      | _ => a.heard := by
  cases c <;> simp only [after] <;> split_ifs <;> rfl

namespace Roster

variable (r : Roster) (now : Timestamp) (uuid : String)

theorem admits_of_known {a : AgentRecord} {info : Snapshot}
    (known : r.get? info.uuid = some a) : a.admits info = true ↔ r.Admits info := by
  rw [← r.admits_iff 0, met_of_known r 0 known]

theorem admits_of_new {info : Snapshot} (absent : r.get? info.uuid = none) : r.Admits info := by
  rw [← r.admits_iff 0, met_of_new r 0 absent]
  rfl

theorem heardOf_after_of_known {a : AgentRecord} (known : r.get? uuid = some a) (c : Call) :
    (r.after now c).heardOf uuid =
      ((r.accepted? uuid c).map fun info => (info.reportedStatus, now)).or (some a.heard) := by
  rw [heardOf, get?_after, found_of_known r now known, Option.map_some, Option.map_some,
    a.heard_after]
  cases c with
  | observe info =>
    dsimp only [accepted?]
    by_cases hu : info.uuid = uuid
    · subst hu
      simp only [r.admits_of_known known]
      split_ifs <;> rfl
    · rw [if_neg fun h => hu h.1, if_neg fun h => hu h.1]
      rfl
  | _ => rfl

/-- An agent is not refused when it makes contact for the first time. -/
theorem heardOf_after_of_new (absent : r.get? uuid = none) (c : Call) :
    (r.after now c).heardOf uuid =
      (c.said? uuid).map fun info => (info.reportedStatus, now) := by
  rw [heardOf, get?_after, found, absent]
  cases said : c.said? uuid with
  | none => rfl
  | some info =>
    change some (((AgentRecord.first r.autoRegister info now).after uuid now c).heard) = _
    rw [AgentRecord.heard_after]
    cases c with
    | observe info' =>
      obtain ⟨-, rfl⟩ : info'.uuid = uuid ∧ info' = info := by simpa [Call.said?] using said
      dsimp only
      split_ifs <;> rfl
    | _ => rfl

/-- What is heard of an agent by which it is registered. -/
theorem heard_or_introduced {x : Step Operation} (absent : r.get? uuid = none) :
    (heard? uuid (r.answered x)).or (introduced? uuid (r.answered x)) =
      (x.call.call.said? uuid).map (·, x.now) := by
  rw [heard?_answered]
  obtain ⟨o, now⟩ := x
  have spoken (info : Snapshot) : ((r.accepted? uuid (.observe info)).map (·, now)).or none =
      ((Call.observe info).said? uuid).map (·, now) := by
    dsimp only [Call.said?, accepted?]
    by_cases hu : info.uuid = uuid
    · rw [if_pos hu, if_pos ⟨hu, r.admits_of_new (hu ▸ absent)⟩]
      rfl
    · rw [if_neg hu, if_neg fun h => hu h.1]
      rfl
  cases o with
  | issueCookie identity location cookie =>
    change (if identity.uuid = uuid then _ else none) =
      Option.map _ (if identity.uuid = uuid then _ else none)
    split_ifs <;> rfl
  | observe info => exact spoken info
  | ping b info => exact spoken info
  | _ => rfl

theorem heardOf_perform (x : Step Operation) : (r.perform x.now x.call).2.heardOf uuid =
    ((heard? uuid (r.answered x)).map claim).or
      ((r.heardOf uuid).or ((introduced? uuid (r.answered x)).map claim)) := by
  rw [perform_snd]
  cases known : r.get? uuid with
  | some a =>
    rw [r.heardOf_after_of_known x.now uuid known, heardOf_of_known known, heard?_answered]
    cases r.accepted? uuid x.call.call <;> rfl
  | none =>
    have unheard : r.heardOf uuid = none := by
      rw [heardOf, known]
      rfl
    rw [r.heardOf_after_of_new x.now uuid known, unheard, Option.none_or, ← Option.map_or,
      r.heard_or_introduced uuid known, Option.map_map]
    rfl

/-- What a roster keeps of an agent's word is what was heard of the agent last. -/
theorem heardOf_session (autoRegister : Bool) (steps : List (Step Operation)) :
    (session autoRegister steps).state.heardOf uuid =
      (lastHeard? uuid (session autoRegister steps).log).map claim := by
  refine Session.run_keeps (P := fun s : Session Roster =>
    s.state.heardOf uuid = (lastHeard? uuid s.log).map claim) ?_ rfl steps
  intro s x before
  change (s.state.perform x.now x.call).2.heardOf uuid = _
  rw [heardOf_perform, before, lastHeard?_call, Option.map_or, Option.map_or]

theorem lastHeard?_of_known {uuid : String} (autoRegister : Bool) {steps : List (Step Operation)}
    {a : AgentRecord} (known : (session autoRegister steps).state.get? uuid = some a) :
    ∃ info, lastHeard? uuid (session autoRegister steps).log = some (info, a.lastSeen) ∧
      info.reportedStatus = a.info.reportedStatus := by
  have heard := heardOf_session uuid autoRegister steps
  rw [heardOf_of_known known] at heard
  obtain ⟨⟨info, seen⟩, last, same⟩ := Option.map_eq_some_iff.1 heard.symm
  obtain ⟨claimed, rfl⟩ : info.reportedStatus = a.info.reportedStatus ∧ seen = a.lastSeen :=
    Prod.mk.inj same
  exact ⟨info, last, claimed⟩

end Roster

end BuildDispatch
