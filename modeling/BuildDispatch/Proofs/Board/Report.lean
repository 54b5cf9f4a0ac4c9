import BuildDispatch.Proofs.Board.Sound

/-!
What becomes of a report. One that is accepted changes its own job alone; any other changes nothing
but one of five counts, and over a session these counts and the accepted reports make up all reports
(`Board.reports_accepted_or_counted`).
-/
namespace BuildDispatch

inductive Refusal where
  | unknownJob
  | terminal
  | notForward
  | duplicate
  | agentMismatch
  deriving DecidableEq

namespace Refusal

/-- An accepted report is not counted. -/
def of? : Except JobError ReportOutcome → Option Refusal
  | .ok .accepted => none
  | .ok .duplicate => some duplicate
  | .ok (.rejected .unknownJob) => some unknownJob
  | .ok (.rejected .terminal) => some terminal
  | .ok (.rejected .notForward) => some notForward
  | .error _ => some agentMismatch

theorem of?_eq_none {answer : Except JobError ReportOutcome} :
    of? answer = none ↔ answer = .ok .accepted := by
  constructor
  · intro h
    unfold of? at h
    split at h
    case h_1 => rfl
    all_goals cases h
  · rintro rfl
    rfl

end Refusal

namespace RejectionCounts

def of (c : RejectionCounts) : Refusal → UInt64
  | .unknownJob => c.unknownJob
  | .terminal => c.terminal
  | .notForward => c.notForward
  | .duplicate => c.duplicate
  | .agentMismatch => c.agentMismatch

def total (c : RejectionCounts) : Nat :=
  c.unknownJob.toNat + c.terminal.toNat + c.notForward.toNat + c.duplicate.toNat +
    c.agentMismatch.toNat

theorem of_count (c : RejectionCounts) (outcome : ReportOutcome) (cause : Refusal) :
    (c.count outcome).of cause =
      c.of cause + if Refusal.of? (.ok outcome) = some cause then 1 else 0 := by
  unfold count
  split <;> cases cause <;> simp [of, Refusal.of?]

end RejectionCounts

theorem Job.refusal_of_hear {j : Job} {now : Timestamp} {r : Report} {outcome : ReportOutcome}
    (h : j.hear now r = .error outcome) :
    outcome = .duplicate ∨ outcome = .rejected .terminal ∨ outcome = .rejected .notForward := by
  cases r with
  | status t =>
    unfold hear reportStatus at h
    dsimp only at h
    split_ifs at h <;> cases h <;> simp
  | completing result =>
    unfold hear reportCompleting at h
    dsimp only at h
    split at h
    case h_3 => split_ifs at h; cases h; exact .inl rfl
    case h_4 => cases h
    all_goals cases h; exact .inr (.inl rfl)
  | completed result =>
    unfold hear reportCompleted at h
    dsimp only at h
    split at h
    case h_1 => cases h; exact .inl rfl
    case h_2 => cases h; exact .inr (.inl rfl)
    case h_3 => cases h

namespace Board

/-- Nothing has changed but one count, which has grown by one. -/
structure Refused (b b' : Board) (cause : Refusal) : Prop where
  kept : b' = { b with rejections := b'.rejections }
  counted : ∀ c, b'.rejections.of c = b.rejections.of c + if c = cause then 1 else 0

theorem refused_count {b : Board} {outcome : ReportOutcome} {cause : Refusal}
    (h : Refusal.of? (.ok outcome) = some cause) : b.Refused (b.count outcome) cause where
  kept := rfl
  counted c := by
    change (b.rejections.count outcome).of c = _
    rw [RejectionCounts.of_count, h]
    simp only [Option.some.injEq, eq_comm]

/-- Only one job has changed; it is stored anew and made known once. -/
structure Changed (b b' : Board) (id : BuildId) (j' : Job) : Prop where
  stored : b'.get? id = some j'
  others : ∀ other, other ≠ id → b'.get? other = b.get? other
  kept : b' = { b with
    jobs := b'.jobs, repository := b.repository.saveJob j', events := .of j' :: b.events }

theorem changed_commit (b : Board) (j : Job) : b.Changed (b.commit j) j.buildId j where
  stored := by rw [get?_commit, if_pos rfl]
  others other hne := by rw [get?_commit, if_neg hne]
  kept := rfl

theorem refused_countMismatch (b : Board) : b.Refused b.countMismatch .agentMismatch where
  kept := rfl
  counted c := by cases c <;> simp [countMismatch, RejectionCounts.of]

/-- How a report is answered, and what the board is then. -/
inductive Takes (b : Board) (uuid : String) (id : BuildId) (now : Timestamp) (r : Report) :
    Except JobError ReportOutcome → Board → Prop where
  | unknown (absent : b.get? id = none) :
    Takes b uuid id now r (.ok (.rejected .unknownJob)) (b.count (.rejected .unknownJob))
  | foreign {j : Job} (stored : b.get? id = some j) (other : j.agent ≠ some uuid) :
    Takes b uuid id now r (.error (.agentMismatch id j.agent uuid)) b.countMismatch
  | refused {j : Job} {outcome : ReportOutcome} (stored : b.get? id = some j)
    (own : j.agent = some uuid) (refusal : j.hear now r = .error outcome) :
    Takes b uuid id now r (.ok outcome) (b.count outcome)
  | accepted {j j' : Job} (stored : b.get? id = some j) (own : j.agent = some uuid)
    (heard : j.Heard now r j') : Takes b uuid id now r (.ok .accepted) (b.commit j')

theorem Coherent.takes {b : Board} (h : b.Coherent) (uuid : String) (id : BuildId)
    (now : Timestamp) (r : Report) :
    b.Takes uuid id now r (b.hear uuid id now r).1 (b.hear uuid id now r).2 := by
  rw [hear_eq]
  unfold report
  cases hj : b.get? id with
  | none => exact .unknown hj
  | some j =>
    have hid : j.buildId = id := h.keyed hj
    dsimp only
    by_cases own : j.isAssignedTo uuid = true
    · rw [if_pos own]
      have own : j.agent = some uuid := of_decide_eq_true own
      cases hr : j.hear now r with
      | error outcome => exact .refused hj own hr
      | ok j' => exact .accepted hj own (Job.heard_of_hear hr)
    · rw [if_neg own, hid]
      exact .foreign hj fun ho => own (decide_eq_true ho)

namespace Takes

variable {b b' : Board} {uuid : String} {id : BuildId} {now : Timestamp} {r : Report}
  {answer : Except JobError ReportOutcome}

theorem of_refused (t : b.Takes uuid id now r answer b') (hn : answer ≠ .ok .accepted) :
    ∃ cause, Refusal.of? answer = some cause ∧ b.Refused b' cause ∧
      (cause = .unknownJob ↔ b.get? id = none) ∧
      (cause = .agentMismatch ↔ ∃ j, b.get? id = some j ∧ j.agent ≠ some uuid) := by
  cases t with
  | unknown absent =>
    exact ⟨.unknownJob, rfl, refused_count rfl, by simp [absent], by simp [absent]⟩
  | foreign stored other =>
    exact ⟨.agentMismatch, rfl, b.refused_countMismatch, by simp [stored], by simp [stored, other]⟩
  | refused stored own refusal =>
    rcases Job.refusal_of_hear refusal with rfl | rfl | rfl
    all_goals exact ⟨_, rfl, refused_count rfl, by simp [stored], by simp [stored, own]⟩
  | accepted => exact absurd rfl hn

theorem of_foreign (t : b.Takes uuid id now r answer b') {j : Job} (stored : b.get? id = some j)
    (other : j.agent ≠ some uuid) : answer = .error (.agentMismatch id j.agent uuid) := by
  cases t with
  | unknown absent => rw [stored] at absent; cases absent
  | foreign stored' => rw [stored] at stored'; cases stored'; rfl
  | refused stored' own => rw [stored] at stored'; cases stored'; exact absurd own other
  | accepted stored' own => rw [stored] at stored'; cases stored'; exact absurd own other

theorem of_accepted (t : b.Takes uuid id now r answer b') (hc : b.Coherent)
    (ha : answer = .ok .accepted) :
    ∃ j j', b.get? id = some j ∧ j.agent = some uuid ∧ j.Heard now r j' ∧ b.Changed b' id j' := by
  cases t with
  | unknown => cases ha
  | foreign => cases ha
  | refused _ _ refusal =>
    cases ha
    rcases Job.refusal_of_hear refusal with h | h | h <;> cases h
  | @accepted j j' stored own heard =>
    have hid : j'.buildId = id := (Job.Moved.heard own heard).buildId_eq.trans (hc.keyed stored)
    exact ⟨j, j', stored, own, heard, hid ▸ changed_commit b j'⟩

theorem rejections_of (t : b.Takes uuid id now r answer b') (hc : b.Coherent) (cause : Refusal) :
    b'.rejections.of cause =
      b.rejections.of cause + if Refusal.of? answer = some cause then 1 else 0 := by
  by_cases ha : answer = .ok .accepted
  · obtain ⟨j, j', -, -, -, changed⟩ := t.of_accepted hc ha
    rw [ha, changed.kept]
    exact (UInt64.add_zero _).symm
  · obtain ⟨c, hc, h, -⟩ := t.of_refused ha
    rw [h.counted, hc]
    simp only [Option.some.injEq, eq_comm]

end Takes

theorem rejections_assignAmong (b : Board) (info : Snapshot) (now : Timestamp)
    (ids : List BuildId) : (b.assignAmong info now ids).2.rejections = b.rejections := by
  induction ids generalizing b with
  | nil => rfl
  | cons id rest ih =>
    unfold assignAmong
    split
    · exact ih _
    · split_ifs
      · exact ih _
      · split
        · exact ih _
        · rfl
      · exact ih _

theorem rejections_reschedule (b : Board) (id : BuildId) (now : Timestamp) :
    (b.reschedule id now).2.rejections = b.rejections := by
  unfold reschedule
  split
  · rfl
  · split <;> rfl

theorem rejections_perform (b : Board) (now : Timestamp) {c : Call}
    (hc : ∀ uuid id r, c ≠ .report uuid id r) : (b.perform now c).2.rejections = b.rejections := by
  cases c with
  | create => rfl
  | assignNext info => exact b.rejections_assignAmong info now _
  | report uuid id r => exact absurd rfl (hc uuid id r)
  | cancel id =>
    change (b.cancel id now).2.rejections = _
    unfold cancel
    split
    · rfl
    · split
      · rfl
      · split_ifs <;> rfl
  | reschedule id => exact b.rejections_reschedule id now
  | releaseAbandoned uuid =>
    change (b.releaseAbandoned uuid now).2.rejections = _
    unfold releaseAbandoned
    split
    case h_1 => rfl
    case h_2 j _ =>
      have hr := b.rejections_reschedule j.buildId now
      split_ifs
      · rfl
      · rfl
      · split
        case h_1 he => rwa [he] at hr
        case h_2 he => rwa [he] at hr

def Answer.outcome? : Answer → Option (Except JobError ReportOutcome)
  | heard outcome => some outcome
  | _ => none

def Call.isReport : Call → Bool
  | report .. => true
  | _ => false

def outcomes (log : List (Entry Call Answer)) : List (Except JobError ReportOutcome) :=
  log.filterMap (·.answer.outcome?)

def accepted (log : List (Entry Call Answer)) : Nat := (outcomes log).countP (· = .ok .accepted)

def refusals (log : List (Entry Call Answer)) (cause : Refusal) : Nat :=
  (outcomes log).countP (Refusal.of? · = some cause)

/-- Every report was accepted, or refused for one cause. -/
theorem length_outcomes (log : List (Entry Call Answer)) :
    (outcomes log).length = accepted log + (refusals log .unknownJob + refusals log .terminal +
      refusals log .notForward + refusals log .duplicate + refusals log .agentMismatch) := by
  unfold accepted refusals
  induction outcomes log with
  | nil => rfl
  | cons outcome rest ih =>
    simp only [List.countP_cons, List.length_cons, decide_eq_true_iff,
      ← Refusal.of?_eq_none] at ih ⊢
    rcases Refusal.of? outcome with _ | cause
    · simp
      omega
    · cases cause <;> simp <;> omega

theorem isSome_outcome? (b : Board) (now : Timestamp) (c : Call) :
    (b.perform now c).1.outcome?.isSome = c.isReport := by
  cases c <;> rfl

theorem Coherent.rejections_of {b : Board} (h : b.Coherent) (now : Timestamp) (c : Call)
    (cause : Refusal) : (b.perform now c).2.rejections.of cause = b.rejections.of cause +
      if (b.perform now c).1.outcome?.bind Refusal.of? = some cause then 1 else 0 := by
  cases c with
  | report uuid id r => exact (h.takes uuid id now r).rejections_of h cause
  | _ =>
    rw [b.rejections_perform now (by simp)]
    exact (UInt64.add_zero _).symm

theorem outcomes_call (s : Session Board) (x : Step Call) : outcomes (s.call x).log =
    outcomes s.log ++ (s.state.perform x.now x.call).1.outcome?.toList :=
  s.filterMap_log_call x _

theorem refusals_call (s : Session Board) (x : Step Call) (cause : Refusal) :
    refusals (s.call x).log cause = refusals s.log cause +
      if (s.state.perform x.now x.call).1.outcome?.bind Refusal.of? = some cause then 1 else 0 := by
  unfold refusals
  rw [outcomes_call, List.countP_append]
  cases (s.state.perform x.now x.call).1.outcome? <;> simp [List.countP_cons]

/-- The counts tell how many reports were refused, as far as a word can tell. -/
theorem rejections_session (steps : List (Step Call)) (cause : Refusal) :
    (session steps).state.rejections.of cause =
      UInt64.ofNat (refusals (session steps).log cause) := by
  have hk : Sound (session steps) ∧ (session steps).state.rejections.of cause =
      UInt64.ofNat (refusals (session steps).log cause) := by
    -- `Sound` is carried along, since a report is only understood on a coherent board.
    refine Session.run_keeps (P := fun s => Sound s ∧
      s.state.rejections.of cause = UInt64.ofNat (refusals s.log cause)) ?_
      ⟨sound_session [], by cases cause <;> rfl⟩ steps
    intro s x h
    refine ⟨h.1.call x, ?_⟩
    rw [state_call, h.1.coherent.rejections_of, h.2, refusals_call, UInt64.ofNat_add]
    split_ifs <;> rfl
  exact hk.2

theorem length_outcomes_session (steps : List (Step Call)) :
    (outcomes (session steps).log).length = steps.countP (·.call.isReport) := by
  have hl : (outcomes (session steps).log).length =
      (session steps).log.countP (·.call.isReport) := by
    refine Session.run_keeps (P := fun s =>
      (outcomes s.log).length = s.log.countP (·.call.isReport)) ?_ rfl steps
    intro s x ih
    rw [outcomes_call, List.length_append, ih, Session.log_call, List.countP_append]
    have hr := isSome_outcome? s.state x.now x.call
    cases h : (s.state.perform x.now x.call).1.outcome? <;> simp_all
  have hc : (session steps).log.map (·.call) = steps.map (·.call) :=
    Session.map_log_run steps Step.call empty
  have hp := congrArg (List.countP Call.isReport) hc
  rw [List.countP_map, List.countP_map] at hp
  exact hl.trans hp

/--
A report that is not accepted changes nothing but one count, that of its answer; an accepted one
changes the caller's own job and nothing else. So the reports of a session are those that were
accepted and those that were counted.
-/
theorem reports_accepted_or_counted (steps : List (Step Call)) :
    (∀ uuid id r now,
      let b := (session steps).state
      let answer := (b.hear uuid id now r).1
      let b' := (b.hear uuid id now r).2
      (answer ≠ .ok .accepted → ∃ cause, Refusal.of? answer = some cause ∧ b.Refused b' cause ∧
        (cause = .unknownJob ↔ b.get? id = none) ∧
        (cause = .agentMismatch ↔ ∃ j, b.get? id = some j ∧ j.agent ≠ some uuid)) ∧
      (∀ j, b.get? id = some j → j.agent ≠ some uuid →
        answer = .error (.agentMismatch id j.agent uuid)) ∧
      (answer = .ok .accepted → ∃ j j', b.get? id = some j ∧ j.agent = some uuid ∧ j' ≠ j ∧
        j'.agent = some uuid ∧ b.Changed b' id j')) ∧
    ((∀ cause, refusals (session steps).log cause < 2 ^ 64) →
      steps.countP (·.call.isReport) =
        accepted (session steps).log + (session steps).state.rejections.total) := by
  constructor
  · intro uuid id r now b answer b'
    have hc := coherent_session steps
    have t := hc.takes uuid id now r
    refine ⟨t.of_refused, fun j => t.of_foreign, fun ha => ?_⟩
    obtain ⟨j, j', stored, own, heard, changed⟩ := t.of_accepted hc ha
    exact ⟨j, j', stored, own, heard.ne, heard.agent_eq.trans own, changed⟩
  · intro few
    have ht : ∀ cause, ((session steps).state.rejections.of cause).toNat =
        refusals (session steps).log cause := by
      intro cause
      rw [rejections_session, UInt64.toNat_ofNat_of_lt' (few cause)]
    rw [← length_outcomes_session, length_outcomes, ← ht, ← ht, ← ht, ← ht, ← ht]
    rfl

/--
A session in which a second agent speaks for a job, and its own agent repeats itself and speaks out
of turn; the job is cancelled while it runs, and then given up.
-/
def contested : List (Step Call) :=
  let agent : Snapshot := .fresh ⟨"host", "10.0.0.1", "u1"⟩ "/agent"
  [⟨.create ⟨"site", "1", "build", "compile", .empty⟩, 5⟩, ⟨.assignNext agent, 6⟩,
    ⟨.report "u2" 1 (.status .building), 7⟩, ⟨.report "u1" 1 (.status .building), 8⟩,
    ⟨.report "u1" 1 (.status .building), 9⟩, ⟨.report "u1" 1 (.status .preparing), 9⟩,
    ⟨.report "u1" 2 (.status .building), 9⟩, ⟨.cancel 1, 10⟩,
    ⟨.report "u1" 1 (.completing .passed), 11⟩, ⟨.releaseAbandoned "u1", 12⟩,
    ⟨.report "u1" 1 (.status .completed), 13⟩, ⟨.report "u1" 1 (.completed .passed), 14⟩]

theorem reports_accepted_or_counted_contested :
    (∀ cause, refusals (session contested).log cause < 2 ^ 64) ∧
      (session contested).state.rejections = ⟨1, 1, 1, 2, 1⟩ ∧
      accepted (session contested).log = 2 ∧
      contested.countP (·.call.isReport) =
        accepted (session contested).log + (session contested).state.rejections.total := by
  have few : ∀ cause, refusals (session contested).log cause < 2 ^ 64 := by
    intro cause
    cases cause <;> decide
  exact ⟨few, by decide, by decide, (reports_accepted_or_counted contested).2 few⟩

end Board

end BuildDispatch
