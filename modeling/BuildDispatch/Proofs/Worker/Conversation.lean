import BuildDispatch.Proofs.Program
import BuildDispatch.Proofs.Worker.Sign

/-!
The order in which an agent speaks. Each job is announced, taken up and reported on in two phases
before the next poll, and nothing is asked for before the agent is registered (`speaks_in_order`).
-/
namespace BuildDispatch.Worker

open Program (Round)

/-- A report that was made: what the agent said of itself with it, and the answer. -/
structure Attempt where
  info : Snapshot
  answer : Except CallError ReportOutcome

namespace Attempt

/-- The job belongs to another agent. -/
def isForeign (x : Attempt) : Bool :=
  match x.answer with
  | .ok _ => false
  | .error e => e.kind? = some .agentMismatch

def isFailed (x : Attempt) : Bool :=
  match x.answer with
  | .ok _ => false
  | .error e => e.kind? ≠ some .agentMismatch

/-- Nothing more is to be said about the job. -/
def isFinal (x : Attempt) : Bool :=
  match x.answer with
  | .ok (.rejected _) => true
  | _ => x.isForeign

def sign (job : JobRef) (report : Report) (x : Attempt) : Sign :=
  .reported job x.info report x.answer

end Attempt

def reports (job : JobRef) (report : Report) (attempts : List Attempt) : List Sign :=
  attempts.map (Attempt.sign job report)

/-- One attempt at least and a number at most. It is repeated if it failed, and only then. -/
structure Delivery (job : JobRef) (most : Nat) (attempts : List Attempt) : Prop where
  some : 0 < attempts.length
  few : attempts.length ≤ most
  busy : ∀ x ∈ attempts, x.info.currentJob = job
  repeated : ∀ x ∈ attempts.dropLast, x.isFailed = true
  persistent : attempts.length < most → ∀ x ∈ attempts.getLast?, x.isFailed = false

/-- The two phases at the end of a job, with one result. A job of another agent has no second. -/
inductive Completion (job : JobRef) (result : JobResult) : List Sign → Prop where
  | foreign {attempts : List Attempt} (delivery : Delivery job reportAttempts attempts)
      (foreign : ∃ x ∈ attempts, x.isForeign = true) :
      Completion job result (reports job (.completing result) attempts)
  | both {first second : List Attempt} (completing : Delivery job reportAttempts first)
      (own : ∀ x ∈ first, x.isForeign = false) (completed : Delivery job reportAttempts second) :
      Completion job result
        (reports job (.completing result) first ++ reports job (.completed result) second)

/-- What is said about a job, from when it was received until the next poll. -/
inductive Handled (job : JobRef) : List Sign → Prop where
  | refused {x : Attempt} (busy : x.info.currentJob = job) (final : x.isFinal = true) :
      Handled job [x.sign job (.status .preparing)]
  | unprepared {x : Attempt} {rest : List Sign} (busy : x.info.currentJob = job)
      (further : x.isFinal = false) (completion : Completion job .failed rest) :
      Handled job (x.sign job (.status .preparing) :: .prepared job false :: rest)
  | stopped {x y : Attempt} (busy : x.info.currentJob = job ∧ y.info.currentJob = job)
      (further : x.isFinal = false) (final : y.isFinal = true) :
      Handled job [x.sign job (.status .preparing), .prepared job true,
        y.sign job (.status .building)]
  | built {x y : Attempt} {result : JobResult} {rest : List Sign}
      (busy : x.info.currentJob = job ∧ y.info.currentJob = job) (further : x.isFinal = false)
      (further' : y.isFinal = false) (completion : Completion job result rest) :
      Handled job (x.sign job (.status .preparing) :: .prepared job true ::
        y.sign job (.status .building) :: rest)

/-- Polls and jobs in turn, by an agent that says at first that it does this. -/
inductive Conversation : AgentStatus × Option JobRef → List Sign → Prop where
  | nil {occupation : AgentStatus × Option JobRef} : Conversation occupation []
  | poll {info : Snapshot} {answer : Except CallError Work} {rest : List Sign}
      (unemployed : ∀ a, answer ≠ .ok (.build a))
      (later : Conversation (info.status, info.currentJob) rest) :
      Conversation (info.status, info.currentJob) (.polled info answer :: rest)
  | job {info : Snapshot} {a : Assignment} {said rest : List Sign} (handled : Handled a.job said)
      (later : Conversation (.idle, none) rest) :
      Conversation (info.status, info.currentJob) (.polled info (.ok (.build a)) :: (said ++ rest))

section

variable {job : JobRef} {s : WorkerState} {x : Attempt}

/-- Nothing but a failure is followed by another attempt. -/
theorem delivery_single (busy : x.info.currentJob = job) {left : Nat}
    (settled : 0 < left → x.isFailed = false) : Delivery job (left + 1) [x] where
  some := Nat.zero_lt_one
  few := Nat.succ_le_succ (Nat.zero_le _)
  busy := by simpa using busy
  repeated y h := absurd h List.not_mem_nil
  persistent more := by simpa using settled (by simpa using more)

theorem Delivery.cons {left : Nat} {attempts : List Attempt} (h : Delivery job left attempts)
    (busy : x.info.currentJob = job) (failed : x.isFailed = true) :
    Delivery job (left + 1) (x :: attempts) where
  some := Nat.succ_pos _
  few := Nat.succ_le_succ h.few
  busy := List.forall_mem_cons.2 ⟨busy, h.busy⟩
  repeated := by
    rw [List.dropLast_cons_of_ne_nil (List.ne_nil_of_length_pos h.some)]
    exact List.forall_mem_cons.2 ⟨failed, h.repeated⟩
  persistent more := by
    rw [List.getLast?_cons_of_ne_nil (List.ne_nil_of_length_pos h.some)]
    exact h.persistent (Nat.lt_of_succ_lt_succ more)

theorem Attempt.isForeign_of_isFailed (failed : x.isFailed = true) : x.isForeign = false := by
  unfold Attempt.isFailed at failed
  unfold Attempt.isForeign
  cases h : x.answer with
  | ok => rfl
  | error e => simpa [h] using failed

theorem announce_yields {state : JobState} (busy : s.info.currentJob = job) :
    Yields (fun l further t => t.info.currentJob = job ∧ ∃ x : Attempt,
      l = [x.sign job (.status state)] ∧ x.info.currentJob = job ∧ further = !x.isFinal)
      (announce job state) s := by
  refine .bind (.look fun t same => ?_)
  refine .bind (.call fun answer u same' => ?_)
  have busy' : u.info.currentJob = job := (congrArg Prod.snd (same'.trans same)).trans busy
  rcases answer with e | outcome
  · by_cases foreign : e.kind? = some .agentMismatch
    · simp only [if_pos foreign]
      refine .pure ⟨busy', ⟨s.info, .error e⟩, rfl, busy, ?_⟩
      simp [Attempt.isFinal, Attempt.isForeign, foreign]
    · simp only [if_neg foreign]
      refine .bind ((recover_unnoticed e u).mono ?_)
      rintro _ - v ⟨rfl, same''⟩
      refine .pure ⟨(congrArg Prod.snd same'').trans busy', ⟨s.info, .error e⟩, rfl, busy, ?_⟩
      simp [Attempt.isFinal, Attempt.isForeign, foreign]
  · cases outcome with
    | rejected reason => exact .pure ⟨busy', ⟨s.info, .ok (.rejected reason)⟩, rfl, busy, rfl⟩
    | accepted => exact .pure ⟨busy', ⟨s.info, .ok .accepted⟩, rfl, busy, rfl⟩
    | duplicate => exact .pure ⟨busy', ⟨s.info, .ok .duplicate⟩, rfl, busy, rfl⟩

theorem checkIgnored_unnoticed (job : JobRef) (s : WorkerState) :
    Unnoticed (checkIgnored job) s := by
  refine .bind (.call fun _ => rfl) fun answer t => ?_
  rcases answer with e | ignored
  · exact .pure
  · cases ignored with
    | false => exact .pure
    | true => exact .change rfl

theorem runTasks_unnoticed (job : JobRef) (environment : List Variable) (tasks : List Task)
    (s : WorkerState) : Unnoticed (runTasks job environment tasks) s := by
  induction tasks generalizing s with
  | nil => exact .bind .look fun _ _ => .pure
  | cons task rest ih =>
    refine .bind (checkIgnored_unnoticed job s) fun _ t => .bind .look fun tripped u => ?_
    cases tripped with
    | true => exact .pure
    | false =>
      refine .bind (.ask (fun _ => rfl) fun _ _ permitted => permitted.1) fun outcome v => ?_
      cases outcome with
      | succeeded => exact ih v
      | failed code => exact .pure
      | cancelled => exact .pure

/-- The end of a job is reported if `execute` comes to a result. -/
theorem execute_yields {a : Assignment} (busy : s.info.currentJob = a.job) :
    Yields (fun l r t => t.info.currentJob = a.job ∧
      match r with
      | none => Handled a.job l
      | some result => ∀ rest, Completion a.job result rest → Handled a.job (l ++ rest))
      (execute a) s := by
  refine .bind ((announce_yields busy).mono ?_)
  rintro _ _ t ⟨busy, x, rfl, said, rfl⟩
  cases final : x.isFinal with
  | true => exact .pure ⟨busy, .refused said final⟩
  | false =>
    refine .bind (.ask fun made u step => ?_)
    have busy : u.info.currentJob = a.job :=
      (congrArg Prod.snd (step_iff.1 step).occupation).trans busy
    cases made with
    | false => exact .pure ⟨busy, fun rest completion => .unprepared said final completion⟩
    | true =>
      refine .bind ((announce_yields busy).mono ?_)
      rintro _ _ v ⟨busy, y, rfl, said', rfl⟩
      cases final' : y.isFinal with
      | true => exact .pure ⟨busy, .stopped ⟨said, said'⟩ final final'⟩
      | false =>
        refine .bind ((runTasks_unnoticed _ _ _ v).mono ?_)
        rintro _ result w ⟨rfl, same⟩
        refine .pure ⟨(congrArg Prod.snd same).trans busy, fun rest completion => ?_⟩
        exact .built ⟨said, said'⟩ final final' completion

theorem sign?_phase (phase : Phase) (info : Snapshot) (job : JobRef) (result : JobResult)
    (answer : Except CallError ReportOutcome) :
    sign? ⟨_, .call (phase.call info job result), answer⟩ =
      some ((Attempt.mk info answer).sign job (phase.report result)) := by
  cases phase <;> rfl

/-- The end of a phase by its attempts: whether the job is still the agent's own. -/
def Delivered (job : JobRef) (report : Report) (most : Nat) (l : List Sign) (own : Bool)
    (t : WorkerState) : Prop :=
  t.info.currentJob = job ∧ ∃ attempts, l = reports job report attempts ∧
    Delivery job most attempts ∧
    if own then ∀ x ∈ attempts, x.isForeign = false else ∃ x ∈ attempts, x.isForeign = true

/-- Without a new cookie there is a pause before whatever comes next. -/
theorem pause_yields {α : Type} {post : List Sign → α → WorkerState → Prop} {p : Script α}
    (pauses : Bool) (h : ∀ t, t.occupation = s.occupation → Yields post p t) :
    Yields post (if pauses then do Program.ask .pause; p else p) s := by
  cases pauses with
  | false => exact h s rfl
  | true => exact .bind (.ask fun _ t step => h t (step_iff.1 step).occupation)

/-- One attempt is the last, or it failed and others may follow. -/
theorem deliver_succ_yields {phase : Phase} {result : JobResult} {left : Nat}
    (busy : s.info.currentJob = job)
    (others : ∀ (x : Attempt) (t : WorkerState), x.info.currentJob = job → x.isFailed = true →
      t.info.currentJob = job → Yields (fun l => Delivered job (phase.report result) (left + 1)
        (x.sign job (phase.report result) :: l)) (deliver phase job result left) t) :
    Yields (Delivered job (phase.report result) (left + 1)) (deliver phase job result (left + 1))
      s := by
  refine .bind (.look fun t same => ?_)
  refine .bind (.call fun answer u same' => ?_)
  have busy' : u.info.currentJob = job := (congrArg Prod.snd (same'.trans same)).trans busy
  rw [sign?_phase]
  rcases answer with e | outcome
  · dsimp only
    by_cases foreign : e.kind? = some .agentMismatch
    · have final : (Attempt.mk s.info (.error e)).isForeign = true := by
        simp [Attempt.isForeign, foreign]
      rw [if_pos foreign]
      refine .pure ⟨busy', [⟨s.info, .error e⟩], rfl, delivery_single busy fun _ => ?_, ?_⟩
      · simp [Attempt.isFailed, foreign]
      · exact ⟨_, .head _, final⟩
    · have failed : (Attempt.mk s.info (.error e)).isFailed = true := by
        simp [Attempt.isFailed, foreign]
      have next (pauses : Bool) (t : WorkerState) (same : t.occupation = u.occupation) :=
        pause_yields pauses fun v same' =>
          others _ v busy failed ((congrArg Prod.snd (same'.trans same)).trans busy')
      rw [if_neg foreign]
      split
      · refine .bind ((refreshCookie_unnoticed u).mono ?_)
        rintro _ refreshed t ⟨rfl, same⟩
        exact next _ t same
      · exact .bind (.pure (next _ u rfl))
  · refine .pure ⟨busy', [⟨s.info, .ok outcome⟩], rfl, delivery_single busy fun _ => rfl, ?_⟩
    intro x h
    rw [List.mem_singleton.1 h]
    rfl

theorem deliver_yields {phase : Phase} {result : JobResult} (left : Nat)
    (busy : s.info.currentJob = job) :
    Yields (Delivered job (phase.report result) (left + 1)) (deliver phase job result (left + 1))
      s := by
  induction left generalizing s with
  | zero =>
    refine deliver_succ_yields busy fun x t said failed busy => ?_
    refine .pure ⟨busy, [x], rfl, delivery_single said nofun, ?_⟩
    intro y h
    rw [List.mem_singleton.1 h]
    exact Attempt.isForeign_of_isFailed failed
  | succ left ih =>
    refine deliver_succ_yields busy fun x t said failed busy => (ih busy).mono ?_
    rintro _ own u ⟨busy, attempts, rfl, delivery, owned⟩
    refine ⟨busy, x :: attempts, rfl, delivery.cons said failed, ?_⟩
    cases own with
    | false =>
      obtain ⟨y, h, foreign⟩ := owned
      exact ⟨y, .tail _ h, foreign⟩
    | true => exact List.forall_mem_cons.2 ⟨Attempt.isForeign_of_isFailed failed, owned⟩

theorem reportCompletion_yields {result : JobResult} (busy : s.info.currentJob = job) :
    Yields (fun l _ t => t.info.currentJob = job ∧ Completion job result l)
      (reportCompletion job result) s := by
  refine .bind ((deliver_yields 2 busy).mono ?_)
  rintro _ own t ⟨busy, first, rfl, completing, owned⟩
  cases own with
  | false =>
    refine .pure ⟨busy, ?_⟩
    rw [List.append_nil]
    exact .foreign completing owned
  | true =>
    refine .bind ((deliver_yields 2 busy).mono ?_)
    rintro _ - u ⟨busy, second, rfl, completed, -⟩
    refine .pure ⟨busy, ?_⟩
    rw [List.append_nil]
    exact .both completing owned completed

/-- However a job ends, it is put away in the same way. -/
theorem leave_yields {l : List Sign} (handled : Handled job l) (s : WorkerState) :
    Yields (fun l' _ t => t.occupation = (.idle, none) ∧ Handled job (l ++ l'))
      (do change (·.disarm); change (·.idle)) s := by
  refine .bind (.change fun t _ => .change fun u same => ⟨same, ?_⟩)
  rwa [List.append_nil, List.append_nil]

theorem runJob_yields (a : Assignment) (s : WorkerState) :
    Yields (fun l _ t => t.occupation = (.idle, none) ∧ Handled a.job l) (runJob a) s := by
  refine .bind (.change fun t same => .bind (.change fun u same' => ?_))
  have busy : u.info.currentJob = a.job := congrArg Prod.snd (same'.trans same)
  refine .bind ((execute_yields busy).mono ?_)
  rintro l r v ⟨busy, said⟩
  cases r with
  | none => exact leave_yields said v
  | some result =>
    have report (w : WorkerState) (busy : w.info.currentJob = a.job) :
        Yields (fun l' _ t => t.occupation = (.idle, none) ∧ Handled a.job (l ++ l'))
          (do reportCompletion a.job result; change (·.disarm); change (·.idle)) w := by
      refine .bind ((reportCompletion_yields busy).mono ?_)
      rintro l' - x ⟨-, completion⟩
      refine (leave_yields (said l' completion) x).mono fun l'' _ t h => ?_
      rwa [← List.append_assoc]
    dsimp only
    split
    · refine .bind (.change fun w same => report w ?_)
      exact (congrArg Prod.snd same).trans busy
    · exact report v busy

end

section

variable {s : WorkerState}

theorem upgradeAvailable_unnoticed (checksum : Option String) (s : WorkerState) :
    Unnoticed (upgradeAvailable checksum) s := by
  cases checksum with
  | none => exact .pure
  | some ours =>
    refine .bind (.call fun _ => rfl) fun answer t => ?_
    cases answer with
    | ok m => exact .pure
    | error e => exact .pure

/-- What is said until a moment leads to what an agent in its state then may say. -/
def Continues (s : WorkerState) (l : List Sign) (t : WorkerState) : Prop :=
  ∀ rest, Conversation t.occupation rest → Conversation s.occupation (l ++ rest)

theorem continues_of_same {t : WorkerState} (same : t.occupation = s.occupation) :
    Continues s [] t := fun _ later => same ▸ later

/-- A poll after which there is nothing to do. -/
theorem continues_of_unemployed {t u : WorkerState} {answer : Except CallError Work}
    (before : t.occupation = s.occupation) (unemployed : ∀ a, answer ≠ .ok (.build a))
    (after : u.occupation = t.occupation) : Continues s [.polled t.info answer] u := by
  intro rest later
  rw [after] at later
  rw [← before]
  exact .poll unemployed later

theorem continues_of_handled {t u : WorkerState} {a : Assignment} {said : List Sign}
    (before : t.occupation = s.occupation) (handled : Handled a.job said)
    (after : u.occupation = (.idle, none)) :
    Continues s (.polled t.info (.ok (.build a)) :: said) u := by
  intro rest later
  rw [after] at later
  rw [← before]
  exact .job handled later

theorem restRound_unnoticed (s : WorkerState) : Unnoticed restRound s := by
  refine .bind (.ask (fun _ => rfl) fun _ _ permitted => permitted.1) fun waited t => ?_
  cases waited with
  | false => exact .pure
  | true => exact .pure

theorem workRound_yields (checksum : Option String) (s : WorkerState) :
    Yields (fun l _ t => Continues s l t) (workRound checksum ()) s := by
  refine .bind (.look fun t same => ?_)
  cases s.isShutDown with
  | true => exact .pure (continues_of_same same)
  | false =>
    refine .bind ((upgradeAvailable_unnoticed checksum t).mono ?_)
    rintro _ upgrade u ⟨rfl, same'⟩
    have before : u.occupation = s.occupation := same'.trans same
    cases upgrade with
    | true => exact .pure (continues_of_same before)
    | false =>
      refine .bind (.look fun v same => .bind (.call fun answer w same' => ?_))
      have after : w.occupation = u.occupation := same'.trans same
      -- Without a job the agent waits for the next poll.
      have rests (unemployed : ∀ a, answer ≠ .ok (.build a)) (x : WorkerState)
          (same : x.occupation = w.occupation) :
          Yields (fun l _ y => Continues s (.polled u.info answer :: l) y) restRound x := by
        refine (restRound_unnoticed x).mono ?_
        rintro _ - y ⟨rfl, same'⟩
        exact continues_of_unemployed before unemployed (same'.trans (same.trans after))
      rcases answer with e | work
      · refine .bind ((recover_unnoticed e w).mono ?_)
        rintro _ - x ⟨rfl, same⟩
        exact rests nofun x same
      · cases work with
        | build a =>
          refine .bind ((runJob_yields a w).mono ?_)
          rintro said - x ⟨idle, handled⟩
          refine .pure ?_
          rw [List.append_nil]
          exact continues_of_handled before handled idle
        | noWork => exact rests nofun w rfl
        | deny reason => exact rests nofun w rfl

theorem workRounds_yields (checksum : Option String) (most : Nat) (s : WorkerState) :
    Yields (fun l _ _ => Conversation s.occupation l)
      (Program.rounds (workRound checksum) most ()) s := by
  induction most generalizing s with
  | zero => exact .pure .nil
  | succ most ih =>
    refine .bind ((workRound_yields checksum s).mono ?_)
    rintro l r t continues
    cases r with
    | again => exact (ih t).mono fun l' _ _ later => continues l' later
    | stop exit => exact .pure (continues [] .nil)

theorem registerRound_unnoticed (s : WorkerState) : Unnoticed (registerRound ()) s := by
  have rests (registered : Bool) (t : WorkerState) : Unnoticed (do
      if registered then return .stop none
      return if ← Program.ask .rest then .again () else .stop (some .shutdown) :
      Script (Round Unit (Option WorkerExit))) t := by
    cases registered with
    | true => exact .pure
    | false =>
      refine .bind (.ask (fun _ => rfl) fun _ _ permitted => permitted.1) fun waited u => ?_
      cases waited with
      | false => exact .pure
      | true => exact .pure
  refine .bind (.call fun _ => rfl) fun answer t => ?_
  rcases answer with e | greeting
  · dsimp only
    split
    · exact .pure
    · exact .bind .pure fun registered u => rests registered u
  · exact .bind (refreshCookie_unnoticed t) rests

/-- A round that goes unnoticed does so however often it is repeated. -/
theorem rounds_unnoticed {σ ρ : Type} {round : σ → Script (Round σ ρ)}
    (h : ∀ x s, Unnoticed (round x) s) (most : Nat) (x : σ) (s : WorkerState) :
    Unnoticed (Program.rounds round most x) s := by
  induction most generalizing x s with
  | zero => exact .pure
  | succ most ih =>
    refine .bind (h x s) fun r t => ?_
    cases r with
    | again y => exact ih y t
    | stop exit => exact .pure

theorem serve_yields (checksum : Option String) (most : Nat) (s : WorkerState) :
    Yields (fun l _ _ => Conversation s.occupation l) (serve checksum most) s := by
  refine .bind ((rounds_unnoticed (fun _ => registerRound_unnoticed) most () s).mono ?_)
  rintro _ r t ⟨rfl, same⟩
  match r with
  | none => exact .pure .nil
  | some (some exit) => exact .pure .nil
  | some none =>
    refine (workRounds_yields checksum most t).mono fun l _ _ h => ?_
    rwa [← same]

end

/-- What an agent says beside its jobs names none of them. -/
theorem pingRound_unnoticed (s : WorkerState) : Unnoticed (pingRound ()) s := by
  refine .bind (.ask (fun _ => rfl) fun _ _ beside => beside) fun more t => ?_
  cases more with
  | false => exact .pure
  | true =>
    refine .bind .look fun info u => .bind (.call fun _ => rfl) fun answer v => ?_
    cases answer with
    | error e => exact .bind (recover_unnoticed e v) fun _ _ => .pure
    | ok instruction =>
      dsimp only
      split
      · exact .bind (.change rfl) fun _ _ => .pure
      · exact .pure

def Registered (past : Program.Trace Action) : Prop :=
  ∃ identity location cookie, ⟨_, .call (.getCookie identity location), .ok cookie⟩ ∈ past

def Action.isPoll {β : Type} : Action β → Bool
  | .call (.getWork _) => true
  | _ => false

abbrev Moment := Program.Moment Action WorkerState

/-- A script polls for work only once some cookie was issued. -/
abbrev PollsRegistered {α : Type} : (Moment → α → Prop) → Script α → Moment → Prop :=
  Program.Safe Step fun m _ x => x.isPoll = true → Registered m.past

theorem Registered.pollsRegistered {α : Type} (p : Script α) {m : Moment}
    (h : Registered m.past) : PollsRegistered (fun _ _ => True) p m := by
  induction p generalizing m with
  | done a => trivial
  | act x next ih =>
    obtain ⟨identity, location, cookie, issued⟩ := h
    exact ⟨fun _ => ⟨identity, location, cookie, issued⟩,
      fun b t _ => ih b ⟨identity, location, cookie, .tail _ issued⟩⟩

theorem refreshCookie_registered (m : Moment) :
    PollsRegistered (fun m refreshed => refreshed = true → Registered m.past) refreshCookie m := by
  refine .bind (.ask nofun fun info t _ => .bind (.ask nofun fun answer u _ => ?_))
  cases answer with
  | ok cookie => exact .bind (.ask nofun fun _ v _ _ => ⟨_, _, cookie, .tail _ (.head _)⟩)
  | error e => exact nofun

theorem registerRound_registered (m : Moment) :
    PollsRegistered (fun m => Round.Meets (fun _ => True)
      fun exit => exit = none → Registered m.past) (registerRound ()) m := by
  have rests (registered : Bool) (m : Moment) (h : registered = true → Registered m.past) :
      PollsRegistered (fun m => Round.Meets (fun _ => True)
        fun exit => exit = none → Registered m.past) (do
          if registered then return .stop none
          return if ← Program.ask .rest then .again () else .stop (some .shutdown) :
          Script (Round Unit (Option WorkerExit))) m := by
    cases registered with
    | true => exact fun _ => h rfl
    | false =>
      refine .bind (.ask nofun fun waited t _ => ?_)
      cases waited with
      | false => exact nofun
      | true => exact trivial
  refine .bind (.ask nofun fun answer t _ => ?_)
  rcases answer with e | greeting
  · dsimp only
    split
    · exact nofun
    · exact .bind (rests false _ nofun)
  · refine .bind ((refreshCookie_registered _).mono (fun _ _ _ here => here) ?_)
    exact fun m registered h => rests registered m h

theorem serve_registered (checksum : Option String) (most : Nat) (m : Moment) :
    PollsRegistered (fun _ _ => True) (serve checksum most) m := by
  have rounds := Program.Safe.rounds (fun _ m _ => registerRound_registered m) most (s := ())
    (m := m) trivial
  refine .bind (rounds.mono (fun _ _ _ here => here) fun m r h => ?_)
  match r with
  | none => trivial
  | some (some exit) => trivial
  | some none => exact Registered.pollsRegistered _ (h rfl)

/--
Whatever is answered, at every moment of an agent. What it said so far is the beginning of a
conversation: polls and jobs in turn, where each job is announced, taken up and reported on in two
phases, and the next poll names no job; all of it, if the agent is done. Before a poll some cookie
was issued. What is said beside, by the loop that pings, names no job and is no poll.
-/
theorem speaks_in_order {checksum : Option String} {most : Nat} {s : WorkerState} {m : Moment}
    {rest : Script (Option WorkerExit)}
    (reached : Program.Reaches Step ⟨[], s⟩ (serve checksum most) m rest) :
    (∃ later, Conversation s.occupation (signs m.past.reverse ++ later) ∧
      ∀ exit, rest = .done exit → later = []) ∧
    (∀ info next, rest = .act (.call (.getWork info)) next → Registered m.past) ∧
    ∀ (s : WorkerState) (most : Nat) (m : Moment) (rest : Script (Option Unit)),
      Program.Reaches Step ⟨[], s⟩ (Program.rounds pingRound most ()) m rest →
      signs m.past.reverse = [] := by
  refine ⟨?_, ?_, fun s most m rest beside => ?_⟩
  · obtain ⟨later, exit, t, conversation, whole⟩ := (serve_yields checksum most s).reached reached
    exact ⟨later, conversation, whole⟩
  · rintro info next rfl
    have safe := (serve_registered checksum most ⟨[], s⟩).reached reached
    exact safe.1 rfl
  · obtain ⟨later, -, -, ⟨silent, -⟩, -⟩ :=
      (rounds_unnoticed (fun _ => pingRound_unnoticed) most () s).reached beside
    exact (List.append_eq_nil_iff.1 silent).1

/-- A job whose announcement is refused is not spoken of any more. -/
theorem speaks_in_order_refused :
    let info : Snapshot := .fresh ⟨"host", "10.0.0.1", "u"⟩ "/srv"
    ∃ m : Moment, Program.Reaches Step ⟨[], .start info⟩ (serve none 1) m (.done none) ∧
      (signs m.past.reverse).length = 2 ∧ Conversation (.idle, none) (signs m.past.reverse) := by
  intro info
  let a : Assignment := ⟨⟨"p", "l", "s", "j", ⟨1⟩⟩, ⟨∅, [], [], ""⟩⟩
  let At := Program.Reaches Step ⟨[], .start info⟩ (serve none 1)
  have greeted : At _ _ := .act (b := .ok (1, "")) .start (.call _ _ .nothing)
  have asked : At _ _ := .act greeted (.note _ .nothing)
  have issued : At _ _ := .act (b := .ok ⟨"ck"⟩) asked (.call _ _ .nothing)
  have registered : At _ _ := .act issued (.note _ .nothing)
  have polls : At _ _ := .act (.act registered (.note _ .nothing)) (.note _ .nothing)
  have received : At _ _ := .act (b := .ok (.build a)) polls (.call _ _ .nothing)
  have building : At _ _ := .act (.act received (.note _ .nothing)) (.note _ .nothing)
  have announced : At _ _ := .act building (.note _ .nothing)
  have refused : At _ _ := .act (b := .ok (.rejected .terminal)) announced (.call _ _ .nothing)
  have left : At _ _ := .act (.act refused (.note _ .nothing)) (.note _ .nothing)
  have reached : At _ (.done none) := left
  obtain ⟨⟨later, conversation, whole⟩, -, -⟩ := speaks_in_order reached
  obtain rfl := whole none rfl
  rw [List.append_nil] at conversation
  exact ⟨_, reached, rfl, conversation⟩

end BuildDispatch.Worker
