import BuildDispatch.Proofs.Board.Cancellation

/-!
Calls on different jobs do not depend on each other. A report or a cancellation reads no job but its
own, and what it changes stays apart from what a call on another job changes: in either order both
have the same answers and leave the same board, up to the order of the events
(`Board.calls_on_different_jobs_commute`).
-/
namespace BuildDispatch.Board

def Call.target? : Call → Option BuildId
  | .report _ id _ => some id
  | .cancel id => some id
  | _ => none

/-- What a call on one job changes. -/
inductive Edit where
  | kept
  /-- One more refused report. -/
  | refused (cause : Refusal)
  | stored (j : Job) (waited : Bool)

namespace Edit

def counts (c : RejectionCounts) : Edit → RejectionCounts
  | refused .unknownJob => { c with unknownJob := c.unknownJob + 1 }
  | refused .terminal => { c with terminal := c.terminal + 1 }
  | refused .notForward => { c with notForward := c.notForward + 1 }
  | refused .duplicate => { c with duplicate := c.duplicate + 1 }
  | refused .agentMismatch => { c with agentMismatch := c.agentMismatch + 1 }
  | _ => c

def jobs (t : Table BuildId Job) : Edit → Table BuildId Job
  | stored j _ => t.insert j.buildId j
  | _ => t

def waiting (t : Keys BuildId) : Edit → Keys BuildId
  | stored j true => t.erase j.buildId
  | _ => t

def events : Edit → List JobEvent
  | stored j _ => [.of j]
  | _ => []

def On (id : BuildId) : Edit → Prop
  | stored j _ => j.buildId = id
  | _ => True

variable (e f : Edit)

theorem counts_comm (c : RejectionCounts) : f.counts (e.counts c) = e.counts (f.counts c) := by
  cases e with
  | refused cause => cases f with
    | refused cause' => cases cause <;> cases cause' <;> rfl
    | _ => rfl
  | _ => rfl

theorem waiting_comm (t : Keys BuildId) : f.waiting (e.waiting t) = e.waiting (f.waiting t) := by
  cases e with
  | stored j w => cases f with
    | stored j' w' =>
      cases w <;> cases w'
      case true.true => exact t.erase_comm _ _
      all_goals rfl
    | _ => rfl
  | _ => rfl

theorem events_comm (es : List JobEvent) :
    (f.events ++ (e.events ++ es)).Perm (e.events ++ (f.events ++ es)) := by
  rw [← List.append_assoc, ← List.append_assoc]
  exact List.perm_append_comm.append_right es

variable {e f}

theorem jobs_comm {id k : BuildId} (he : e.On id) (hf : f.On k) (apart : id ≠ k)
    (t : Table BuildId Job) : f.jobs (e.jobs t) = e.jobs (f.jobs t) := by
  cases e with
  | stored j w => cases f with
    | stored j' w' =>
      have hne : j.buildId ≠ j'.buildId := by
        rw [show j.buildId = id from he, show j'.buildId = k from hf]
        exact apart
      exact t.insert_comm hne j j'
    | _ => rfl
  | _ => rfl

theorem get?_jobs {id q : BuildId} (on : e.On id) (apart : q ≠ id) (t : Table BuildId Job) :
    (e.jobs t).get? q = t.get? q := by
  cases e with
  | stored j w =>
    have hid : j.buildId = id := on
    exact t.get?_insert_of_ne j (hid ▸ apart)
  | _ => rfl

end Edit

def edit (b : Board) (e : Edit) : Board :=
  { b with
    jobs := e.jobs b.jobs
    waiting := e.waiting b.waiting
    repository := { b.repository with jobs := e.jobs b.repository.jobs }
    events := e.events ++ b.events
    rejections := e.counts b.rejections }

/-- The boards differ at most in the order of their events. -/
structure Alike (b b' : Board) : Prop where
  jobs : b'.jobs = b.jobs
  waiting : b'.waiting = b.waiting
  assignments : b'.assignments = b.assignments
  nextId : b'.nextId = b.nextId
  repository : b'.repository = b.repository
  rejections : b'.rejections = b.rejections
  events : b'.events.Perm b.events

namespace Alike

theorem refl (b : Board) : b.Alike b := ⟨rfl, rfl, rfl, rfl, rfl, rfl, .refl _⟩

theorem trans {b b' b'' : Board} (h : b.Alike b') (h' : b'.Alike b'') : b.Alike b'' where
  jobs := h'.jobs.trans h.jobs
  waiting := h'.waiting.trans h.waiting
  assignments := h'.assignments.trans h.assignments
  nextId := h'.nextId.trans h.nextId
  repository := h'.repository.trans h.repository
  rejections := h'.rejections.trans h.rejections
  events := h'.events.trans h.events

theorem get?_eq {b b' : Board} (h : b.Alike b') (id : BuildId) : b'.get? id = b.get? id :=
  congrArg (Table.get? · id) h.jobs

theorem edit {b b' : Board} (h : b.Alike b') (e : Edit) : (b.edit e).Alike (b'.edit e) where
  jobs := congrArg e.jobs h.jobs
  waiting := congrArg e.waiting h.waiting
  assignments := h.assignments
  nextId := h.nextId
  repository := congrArg (fun r => { r with jobs := e.jobs r.jobs }) h.repository
  rejections := congrArg e.counts h.rejections
  events := h.events.append_left e.events

end Alike

theorem edit_comm {e f : Edit} {id k : BuildId} (he : e.On id) (hf : f.On k) (apart : id ≠ k)
    (b : Board) : ((b.edit e).edit f).Alike ((b.edit f).edit e) where
  jobs := (Edit.jobs_comm he hf apart _).symm
  waiting := (e.waiting_comm f _).symm
  assignments := rfl
  nextId := rfl
  repository :=
    congrArg (fun t => { b.repository with jobs := t }) (Edit.jobs_comm he hf apart _).symm
  rejections := (e.counts_comm f _).symm
  events := f.events_comm e b.events

/-- What a call on this job is answered and what it changes, as far as it depends on the job. -/
structure Reads (c : Call) (now : Timestamp) (id : BuildId) (f : Option Job → Answer × Edit) :
    Prop where
  performs : ∀ {b : Board}, b.Coherent →
    b.perform now c = ((f (b.get? id)).1, b.edit (f (b.get? id)).2)
  on : ∀ {old : Option Job}, (∀ j ∈ old, j.buildId = id) → (f old).2.On id

def reportEdit (uuid : String) (id : BuildId) (now : Timestamp) (r : Report) :
    Option Job → Except JobError ReportOutcome × Edit
  | none => (.ok (.rejected .unknownJob), .refused .unknownJob)
  | some j =>
    if j.isAssignedTo uuid then
      match j.hear now r with
      | .ok j' => (.ok .accepted, .stored j' false)
      | .error outcome => (.ok outcome, (Refusal.of? (.ok outcome)).elim .kept .refused)
    else (.error (.agentMismatch id j.agent uuid), .refused .agentMismatch)

def cancelEdit (id : BuildId) (now : Timestamp) : Option Job → Except JobError Bool × Edit
  | none => (.error (.unknownJob id), .kept)
  | some j =>
    match j.cancel? now with
    | none => (.ok false, .kept)
    | some j' => (.ok true, .stored j' (j.state = .scheduled))

theorem reads_report (uuid : String) (id : BuildId) (now : Timestamp) (r : Report) :
    Reads (.report uuid id r) now id fun old =>
      let (outcome, e) := reportEdit uuid id now r old
      (.heard outcome, e) where
  performs := by
    intro b hc
    change (Answer.heard (b.hear uuid id now r).1, (b.hear uuid id now r).2) = _
    rw [hear_eq]
    unfold report reportEdit
    cases stored : b.get? id with
    | none => rfl
    | some j =>
      dsimp only
      by_cases own : j.isAssignedTo uuid = true
      · simp only [own, if_true]
        cases heard : j.hear now r with
        | ok j' => rfl
        | error outcome => rcases Job.refusal_of_hear heard with rfl | rfl | rfl <;> rfl
      · rw [if_neg own, if_neg own, hc.keyed stored]
        rfl
  on := by
    intro old keyed
    unfold reportEdit
    cases old with
    | none => trivial
    | some j =>
      dsimp only
      split_ifs with own
      · cases heard : j.hear now r with
        | ok j' =>
          have own : j.agent = some uuid := of_decide_eq_true own
          have m : j.Moved now _ _ j' := .heard own (Job.heard_of_hear heard)
          exact m.buildId_eq.trans (keyed j rfl)
        | error outcome => rcases Job.refusal_of_hear heard with rfl | rfl | rfl <;> trivial
      · trivial

theorem reads_cancel (id : BuildId) (now : Timestamp) :
    Reads (.cancel id) now id fun old =>
      let (changed, e) := cancelEdit id now old
      (.cancelled changed, e) where
  performs := by
    intro b hc
    change (Answer.cancelled (b.cancel id now).1, (b.cancel id now).2) = _
    unfold cancel cancelEdit
    cases stored : b.get? id with
    | none => rfl
    | some j =>
      dsimp only
      cases changed : j.cancel? now with
      | none => rfl
      | some j' =>
        have hid : j'.buildId = id :=
          (congrArg JobRef.buildId (Job.cancelled_of_cancel? changed).1).trans (hc.keyed stored)
        dsimp only
        by_cases waits : j.state = .scheduled
        · simp only [waits, if_true]
          rw [← hid]
          rfl
        · simp only [waits, if_false]
          rfl
  on := by
    intro old keyed
    unfold cancelEdit
    cases old with
    | none => trivial
    | some j =>
      dsimp only
      cases changed : j.cancel? now with
      | none => trivial
      | some j' =>
        exact (congrArg JobRef.buildId (Job.cancelled_of_cancel? changed).1).trans (keyed j rfl)

theorem exists_reads {c : Call} {id : BuildId} (h : c.target? = some id) (now : Timestamp) :
    ∃ f, Reads c now id f := by
  cases c with
  | report uuid id' r =>
    cases h
    exact ⟨_, reads_report uuid id now r⟩
  | cancel id' =>
    cases h
    exact ⟨_, reads_cancel id now⟩
  | _ => cases h

namespace Coherent

variable {b : Board} (hc : b.Coherent)
include hc

/-- A call on one job is answered alike, and does the same, before and after one on another. -/
theorem perform_comm {x y : Step Call} {id k : BuildId} (hx : x.call.target? = some id)
    (hy : y.call.target? = some k) (apart : id ≠ k) :
    ((b.perform x.now x.call).2.perform y.now y.call).1 = (b.perform y.now y.call).1 ∧
      ((b.perform x.now x.call).2.perform y.now y.call).2.Alike
        ((b.perform y.now y.call).2.perform x.now x.call).2 := by
  obtain ⟨f, hf⟩ := exists_reads hx x.now
  obtain ⟨g, hg⟩ := exists_reads hy y.now
  have onf : (f (b.get? id)).2.On id := hf.on fun j stored => hc.keyed stored
  have ong : (g (b.get? k)).2.On k := hg.on fun j stored => hc.keyed stored
  have hcx := (hc.perform_effect x.now x.call).coherent hc
  have hcy := (hc.perform_effect y.now y.call).coherent hc
  rw [hg.performs hcx, hf.performs hcy]
  rw [hf.performs hc, hg.performs hc]
  have keepk : (b.edit (f (b.get? id)).2).get? k = b.get? k := Edit.get?_jobs onf apart.symm _
  have keepid : (b.edit (g (b.get? k)).2).get? id = b.get? id := Edit.get?_jobs ong apart _
  dsimp only
  rw [keepk, keepid]
  exact ⟨rfl, edit_comm onf ong apart b⟩

omit hc in
/-- What is alike before a call on one job is alike after it. -/
theorem perform_alike {b b' : Board} (hb : b.Coherent) (hb' : b'.Coherent) (h : b.Alike b')
    {x : Step Call} {id : BuildId} (hx : x.call.target? = some id) :
    (b.perform x.now x.call).2.Alike (b'.perform x.now x.call).2 := by
  obtain ⟨f, hf⟩ := exists_reads hx x.now
  rw [hf.performs hb, hf.performs hb', h.get?_eq]
  exact h.edit _

end Coherent

/--
Of a report or a cancellation of one job and one of another, each is answered alike whichever comes
first, and afterwards the board is the same: its jobs, those that wait, who was given what, the
repository, the counts and the next number. Only the events may come in another order.
-/
theorem calls_on_different_jobs_commute (steps : List (Step Call)) (x y : Step Call)
    {id k : BuildId} (hx : x.call.target? = some id) (hy : y.call.target? = some k)
    (apart : id ≠ k) :
    let b := (session steps).state
    let afterX := (b.perform x.now x.call).2
    let afterY := (b.perform y.now y.call).2
    (afterX.perform y.now y.call).1 = (b.perform y.now y.call).1 ∧
    (afterY.perform x.now x.call).1 = (b.perform x.now x.call).1 ∧
    (afterX.perform y.now y.call).2.Alike (afterY.perform x.now x.call).2 := by
  have hc := coherent_session steps
  obtain ⟨answered, alike⟩ := hc.perform_comm hx hy apart
  exact ⟨answered, (hc.perform_comm hy hx apart.symm).1, alike⟩

/-- An agent is heard on its job and a waiting job is cancelled, in either order. -/
theorem calls_on_different_jobs_commute_relay :
    let b := (session (relay.take 4)).state
    let ends : Step Call := ⟨.report "u1" 1 (.completed .passed), 9⟩
    let drops : Step Call := ⟨.cancel 2, 9⟩
    ((b.perform 9 ends.call).2.perform 9 drops.call).2.Alike
      ((b.perform 9 drops.call).2.perform 9 ends.call).2 :=
  (calls_on_different_jobs_commute (relay.take 4) ⟨.report "u1" 1 (.completed .passed), 9⟩
    ⟨.cancel 2, 9⟩ rfl rfl (by decide)).2.2

theorem alike_run {s s' : Session Board} (hs : Sound s) (hs' : Sound s')
    (h : s.state.Alike s'.state) {steps : List (Step Call)}
    (targeted : ∀ x ∈ steps, x.call.target? ≠ none) :
    (s.run steps).state.Alike (s'.run steps).state := by
  induction steps generalizing s s' with
  | nil => exact h
  | cons x rest ih =>
    obtain ⟨id, hx⟩ := Option.ne_none_iff_exists'.1 (targeted x List.mem_cons_self)
    have once := Coherent.perform_alike hs.coherent hs'.coherent h hx
    exact ih (hs.call x) (hs'.call x) once fun y hy => targeted y (List.mem_cons_of_mem _ hy)

/--
Reports and cancellations of jobs that are all different may come in any order: the board is the
same afterwards, up to the order of the events.
-/
theorem calls_on_different_jobs_in_any_order {s : Session Board} (hs : Sound s)
    {steps steps' : List (Step Call)} (h : steps.Perm steps')
    (targeted : ∀ x ∈ steps, x.call.target? ≠ none)
    (apart : (steps.map (·.call.target?)).Nodup) :
    (s.run steps).state.Alike (s.run steps').state := by
  induction h generalizing s with
  | nil => exact .refl _
  | cons x _ ih =>
    exact ih (hs.call x) (fun y hy => targeted y (List.mem_cons_of_mem _ hy))
      (List.nodup_cons.1 apart).2
  | swap x y rest =>
    obtain ⟨id, hx⟩ := Option.ne_none_iff_exists'.1 (targeted x (by simp))
    obtain ⟨k, hy⟩ := Option.ne_none_iff_exists'.1 (targeted y (by simp))
    have hne : k ≠ id := by
      rintro rfl
      simp [hx, hy] at apart
    have once := (hs.coherent.perform_comm hy hx hne).2
    refine alike_run ((hs.call y).call x) ((hs.call x).call y) once fun z hz => targeted z ?_
    exact List.mem_cons_of_mem _ (List.mem_cons_of_mem _ hz)
  | trans first _ ih ih' =>
    have middle := (first.map (·.call.target?)).nodup_iff.1 apart
    exact (ih hs targeted apart).trans
      (ih' hs (fun x hx => targeted x (first.mem_iff.2 hx)) middle)

end BuildDispatch.Board
