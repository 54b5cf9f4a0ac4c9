import BuildDispatch.Proofs.Board.Conservation
import BuildDispatch.Proofs.Config
import BuildDispatch.Proofs.Repository
import BuildDispatch.Scheduler

/-!
What a trigger does: it is refused and changes nothing, or it makes the jobs of a stage and saves
the cause of the run (`Scheduler.trigger_cases`).
-/
namespace BuildDispatch

theorem Board.Effect.counter_eq {b b' : Board} {now : Timestamp} {c : Board.Call}
    {a : Board.Answer} (e : b.Effect now c a b') (q : String) :
    b'.repository.counter q = b.repository.counter q := by
  unfold Repository.counter Repository.latest?
  rw [e.latestCauses_eq]

theorem toNat_add_one {n : UInt64} (h : n.toNat + 1 < 2 ^ 64) : (n + 1).toNat = n.toNat + 1 := by
  rw [UInt64.toNat_add]
  exact Nat.mod_eq_of_lt h

theorem le_add_one {n : UInt64} (h : n + 1 ≠ 0) : n ≤ n + 1 := by
  have hlt := n.toNat_lt
  have hne : n.toNat + 1 ≠ 2 ^ 64 := by
    intro he
    apply h
    rw [← UInt64.toNat_inj, UInt64.toNat_add]
    change (n.toNat + 1) % 2 ^ 64 = 0
    rw [he, Nat.mod_self]
  rw [UInt64.le_iff_toNat_le, toNat_add_one (by omega)]
  omega

theorem Trigger.counter_cause (t : Trigger) (p : Pipeline) (r : Repository) (now : Timestamp) :
    (t.cause p (r.latest? t.pipeline) now).counter = r.counter t.pipeline + 1 := by
  unfold cause Repository.counter
  cases r.latest? t.pipeline <;> rfl

theorem Trigger.decide_eq_ok_iff {t : Trigger} {p : Pipeline} {permissions : Permissions}
    {latest : Option BuildCause} {now : Timestamp} {c : BuildCause} {stage : Stage} :
    t.decide p permissions latest now = .ok (c, stage) ↔
      t.refusal? p permissions = none ∧ (∀ m ∈ t.materials, p.hasMaterial m = true) ∧
        t.isChange latest = true ∧ p.firstStage? = some stage ∧ c = t.cause p latest now := by
  unfold decide
  cases t.refusal? p permissions with
  | some outcome => simp
  | none =>
    cases hm : t.materials.find? fun m => !p.hasMaterial m with
    | some m =>
      have found := List.find?_some hm
      have listed := List.mem_of_find?_eq_some hm
      simp only [reduceCtorEq, false_iff, not_and]
      intro _ known
      rw [known m listed] at found
      cases found
    | none =>
      have known : ∀ m ∈ t.materials, p.hasMaterial m = true := by simpa using hm
      cases t.isChange latest with
      | false => simp
      | true =>
        cases p.firstStage? with
        | none => simp
        | some s =>
          simp only [Except.ok.injEq, Prod.mk.injEq, Option.some.injEq, if_true, true_and]
          constructor
          · rintro ⟨rfl, rfl⟩
            exact ⟨known, rfl, rfl⟩
          · rintro ⟨-, rfl, rfl⟩
            exact ⟨rfl, rfl⟩

theorem Trigger.of_decide_eq_error {t : Trigger} {p : Pipeline} {permissions : Permissions}
    {latest : Option BuildCause} {now : Timestamp} {outcome : ScheduleOutcome}
    (h : t.decide p permissions latest now = .error outcome) :
    t.refusal? p permissions = some outcome ∨
      (∃ m, outcome = unknownMaterial t.pipeline m) ∨ outcome = .noChange t.pipeline ∨
      p.firstStage? = none ∧ outcome = noStages p.name := by
  unfold decide at h
  cases hr : t.refusal? p permissions with
  | some refused =>
    rw [hr] at h
    exact .inl (congrArg some (Except.error.inj h))
  | none =>
    rw [hr] at h
    dsimp only at h
    split at h
    case h_1 m _ => exact .inr (.inl ⟨m, (Except.error.inj h).symm⟩)
    case h_2 =>
      split_ifs at h
      · split at h
        case h_1 => cases h
        case h_2 none => exact .inr (.inr (.inr ⟨none, (Except.error.inj h).symm⟩))
      · exact .inr (.inr (.inl (Except.error.inj h).symm))

theorem Trigger.of_refusal? {t : Trigger} {p : Pipeline} {permissions : Permissions}
    {outcome : ScheduleOutcome} (h : t.refusal? p permissions = some outcome) :
    p.firstStage? = none ∧ outcome = noStages t.pipeline ∨
      ∃ message, outcome = .unauthorized message := by
  unfold refusal? at h
  cases t with
  | material => cases h
  | manual pipeline user options =>
    dsimp only at h
    split at h
    case h_1 none =>
      cases h
      exact .inl ⟨none, rfl⟩
    case h_2 stage _ =>
      split_ifs at h
      cases h
      exact .inr ⟨_, rfl⟩

theorem Trigger.not_scheduled_of_decide {t : Trigger} {p : Pipeline} {permissions : Permissions}
    {latest : Option BuildCause} {now : Timestamp} {outcome : ScheduleOutcome}
    (h : t.decide p permissions latest now = .error outcome) : outcome.isScheduled = false := by
  rcases of_decide_eq_error h with refused | ⟨_, rfl⟩ | rfl | ⟨-, rfl⟩
  · rcases of_refusal? refused with ⟨-, rfl⟩ | ⟨_, rfl⟩
    · rfl
    · rfl
  all_goals rfl

/-- A trigger that is in flight is not told that another one is. -/
theorem Trigger.ne_alreadyInFlight_of_decide {t : Trigger} {p : Pipeline}
    {permissions : Permissions} {latest : Option BuildCause} {now : Timestamp}
    {outcome : ScheduleOutcome} (h : t.decide p permissions latest now = .error outcome)
    (q : String) : outcome ≠ .alreadyInFlight q := by
  rcases of_decide_eq_error h with refused | ⟨_, rfl⟩ | rfl | ⟨-, rfl⟩
  · rcases of_refusal? refused with ⟨-, rfl⟩ | ⟨_, rfl⟩
    · exact nofun
    · exact nofun
  all_goals exact nofun

def JobTemplate.instantiate (j : JobTemplate) (c : BuildCause) (stage : String) (id : BuildId)
    (now : Timestamp) : Job :=
  .scheduled ⟨c.pipeline, c.label, stage, j.name, id⟩ (j.plan c stage) now

def JobTemplate.request (j : JobTemplate) (c : BuildCause) (stage : String) : JobRequest :=
  ⟨c.pipeline, c.label, stage, j.name, j.plan c stage⟩

def numbersFrom (id : BuildId) (n : Nat) : List BuildId :=
  (List.range n).map fun i => id + UInt64.ofNat i

theorem numbersFrom_succ (id : BuildId) (n : Nat) :
    numbersFrom id (n + 1) = id :: numbersFrom (id + 1) n := by
  unfold numbersFrom
  rw [List.range_succ_eq_map, List.map_cons, List.map_map]
  congr 1
  · simp
  · refine List.map_congr_left fun i _ => ?_
    change id + UInt64.ofNat (i + 1) = id + 1 + UInt64.ofNat i
    rw [UInt64.ofNat_add, UInt64.add_assoc, UInt64.add_comm 1]
    rfl

namespace Scheduler

section Jobs

variable {s : Scheduler} (c : BuildCause) (stage : String) (now : Timestamp)

theorem createJobs_cons (j : JobTemplate) (rest : List JobTemplate) :
    s.createJobs c stage now (j :: rest) =
      (s.board.nextId :: ((s.createJob c stage j now).2.createJobs c stage now rest).1,
        ((s.createJob c stage j now).2.createJobs c stage now rest).2) := rfl

theorem get?_createJob (j : JobTemplate) (id : BuildId) :
    (s.createJob c stage j now).2.board.get? id =
      if id = s.board.nextId then some (j.instantiate c stage id now) else s.board.get? id := by
  have h := s.board.get?_insertScheduled ⟨c.pipeline, c.label, stage, j.name, 0⟩
    (j.plan c stage) now id
  refine Eq.trans h ?_
  split_ifs with hid
  · rw [hid]
    rfl
  · rfl

theorem createJobs_fst (templates : List JobTemplate) :
    (s.createJobs c stage now templates).1 = numbersFrom s.board.nextId templates.length := by
  induction templates generalizing s with
  | nil => rfl
  | cons j rest ih =>
    rw [createJobs_cons, ih, List.length_cons, numbersFrom_succ]
    rfl

/-- Nothing but the board changes while jobs are made, and of its repository only the jobs. -/
theorem createJobs_snd (templates : List JobTemplate) :
    let s' := (s.createJobs c stage now templates).2
    s' = { s with board := s'.board } ∧
      s'.board.nextId = s.board.nextId + UInt64.ofNat templates.length ∧
      s'.board.repository.latestCauses = s.board.repository.latestCauses ∧
      s.board.jobs.size ≤ s'.board.jobs.size := by
  induction templates generalizing s with
  | nil => exact ⟨rfl, (UInt64.add_zero _).symm, rfl, le_rfl⟩
  | cons j rest ih =>
    obtain ⟨same, next, causes, size⟩ := ih (s := (s.createJob c stage j now).2)
    rw [createJobs_cons]
    refine ⟨same, ?_, causes, (Table.size_le_size_insert _ _ _).trans size⟩
    dsimp only
    rw [next, List.length_cons, UInt64.ofNat_add]
    change s.board.nextId + 1 + _ = s.board.nextId + (_ + 1)
    rw [UInt64.add_assoc, UInt64.add_comm 1]

theorem get?_createJobs_of_not_mem {templates : List JobTemplate} {id : BuildId}
    (h : id ∉ (s.createJobs c stage now templates).1) :
    (s.createJobs c stage now templates).2.board.get? id = s.board.get? id := by
  induction templates generalizing s with
  | nil => rfl
  | cons j rest ih =>
    rw [createJobs_cons] at h ⊢
    have hne : id ≠ s.board.nextId := fun he => h (he ▸ List.mem_cons_self)
    have hr := fun hm => h (List.mem_cons_of_mem s.board.nextId hm)
    rw [ih hr, get?_createJob, if_neg hne]

/-- Under every number that a run took stands a job of the run. -/
theorem get?_createJobs_of_mem {templates : List JobTemplate} {id : BuildId}
    (h : id ∈ (s.createJobs c stage now templates).1) : ∃ j ∈ templates,
      (s.createJobs c stage now templates).2.board.get? id =
        some (j.instantiate c stage id now) := by
  induction templates generalizing s with
  | nil => cases h
  | cons j rest ih =>
    rw [createJobs_cons] at h ⊢
    by_cases hr : id ∈ ((s.createJob c stage j now).2.createJobs c stage now rest).1
    · obtain ⟨k, hk, hs⟩ := ih hr
      exact ⟨k, List.mem_cons_of_mem _ hk, hs⟩
    · have hid : id = s.board.nextId := by simpa [hr] using h
      refine ⟨j, List.mem_cons_self, ?_⟩
      rw [get?_createJobs_of_not_mem c stage now hr, get?_createJob, if_pos hid]

/-- As long as there are `Few` jobs, those of a run take numbers that are free. -/
theorem made_createJobs {templates : List JobTemplate} (numbered : s.board.Numbered)
    (few : (s.createJobs c stage now templates).2.board.Few) :
    let ids := (s.createJobs c stage now templates).1
    let b := (s.createJobs c stage now templates).2.board
    ids.Nodup ∧ (∀ id ∈ ids, s.board.get? id = none) ∧
      List.Forall₂ (fun id j => b.get? id = some (j.instantiate c stage id now)) ids templates ∧
      b.jobs.size = s.board.jobs.size + templates.length ∧
      b.standing = s.board.standing + (templates.map fun j => j.request c stage) := by
  induction templates generalizing s with
  | nil => exact ⟨.nil, by simp [createJobs], .nil, rfl, (add_zero _).symm⟩
  | cons j rest ih =>
    rw [createJobs_cons] at few ⊢
    have size := (createJobs_snd (s := (s.createJob c stage j now).2) c stage now rest).2.2.2
    have first := numbered.insertScheduled ⟨c.pipeline, c.label, stage, j.name, 0⟩
      (j.plan c stage) now (size.trans_lt few)
    have one : (s.createJob c stage j now).2.board.jobs.size = s.board.jobs.size + 1 :=
      numbered.size_insertScheduled _ _ now
    have asked : (s.createJob c stage j now).2.board.standing =
        {j.request c stage} + s.board.standing :=
      Board.standing_insertScheduled _ _ now numbered.fresh
    obtain ⟨distinct, free, made, grown, standing⟩ := ih (s := (s.createJob c stage j now).2) first few
    have here := get?_createJob (s := s) c stage now j s.board.nextId
    rw [if_pos rfl] at here
    -- The first number is bound when the others are still free.
    have absent : s.board.nextId ∉ ((s.createJob c stage j now).2.createJobs c stage now rest).1 := by
      intro hm
      rw [free _ hm] at here
      cases here
    refine ⟨List.nodup_cons.2 ⟨absent, distinct⟩,
      List.forall_mem_cons.2 ⟨numbered.fresh, fun id hid => ?_⟩, .cons ?_ made, ?_⟩
    · have hn := free id hid
      have hne : id ≠ s.board.nextId := fun he => absent (he ▸ hid)
      rwa [get?_createJob, if_neg hne] at hn
    · rw [get?_createJobs_of_not_mem c stage now absent, here]
    · constructor
      · rw [grown, one, List.length_cons]
        omega
      · rw [standing, asked, List.map_cons, ← Multiset.cons_coe, ← Multiset.singleton_add,
          ← add_assoc, add_comm s.board.standing]

end Jobs

end Scheduler

/--
What a run of a stage makes of a board. As long as there are `Few` jobs no number is used twice,
and as long as the counter of the pipeline does not run over its cause is the latest.
-/
structure Board.Launched (b : Board) (c : BuildCause) (stage : Stage) (now : Timestamp)
    (b' : Board) : Prop where
  numbers : c.jobs = numbersFrom b.nextId stage.jobs.length
  next : b'.nextId = b.nextId + UInt64.ofNat stage.jobs.length
  kept : ∀ id ∉ c.jobs, b'.get? id = b.get? id
  listed : ∀ id ∈ c.jobs, ∃ j ∈ stage.jobs, b'.get? id = some (j.instantiate c stage.name id now)
  distinct : b.Numbered → b'.Few → c.jobs.Nodup
  free : b.Numbered → b'.Few → ∀ id ∈ c.jobs, b.get? id = none
  made : b.Numbered → b'.Few → List.Forall₂
    (fun id j => b'.get? id = some (j.instantiate c stage.name id now)) c.jobs stage.jobs
  size : b.jobs.size ≤ b'.jobs.size
  grown : b.Numbered → b'.Few → b'.jobs.size = b.jobs.size + stage.jobs.length
  standing : b.Numbered → b'.Few →
    b'.standing = b.standing + (stage.jobs.map fun j => j.request c stage.name)
  counter : c.counter = b.repository.counter c.pipeline + 1
  latest : c.counter ≠ 0 → b'.repository.latest? c.pipeline = some c
  others : ∀ q ≠ c.pipeline, b'.repository.latest? q = b.repository.latest? q

namespace Board.Launched

variable {b b' : Board} {c : BuildCause} {stage : Stage} {now : Timestamp}

theorem toNat_counter (h : b.Launched c stage now b')
    (few : (b.repository.counter c.pipeline).toNat + 1 < 2 ^ 64) :
    c.counter.toNat = (b.repository.counter c.pipeline).toNat + 1 := by
  rw [h.counter]
  exact toNat_add_one few

theorem counter_ne_zero (h : b.Launched c stage now b')
    (few : (b.repository.counter c.pipeline).toNat + 1 < 2 ^ 64) : c.counter ≠ 0 := by
  intro hz
  have hn := h.toNat_counter few
  rw [hz] at hn
  cases hn

theorem counter_self (h : b.Launched c stage now b') (positive : c.counter ≠ 0) :
    b'.repository.counter c.pipeline = c.counter := by
  unfold Repository.counter
  rw [h.latest positive]

theorem counter_of_ne (h : b.Launched c stage now b') {q : String} (hq : q ≠ c.pipeline) :
    b'.repository.counter q = b.repository.counter q := by
  unfold Repository.counter
  rw [h.others q hq]

end Board.Launched

namespace Scheduler

/-- A trigger that is let in and sets a run of the first stage of its pipeline off. -/
structure Launches (s : Scheduler) (t : Trigger) (now : Timestamp) (p : Pipeline) (stage : Stage)
    (c : BuildCause) (b' : Board) : Prop where
  found : s.config.pipeline? t.pipeline = some p
  admitted : t.refusal? p s.permissions = none
  first : p.firstStage? = some stage
  cause : c = { t.cause p (s.latest? t.pipeline) now with jobs := c.jobs }
  launched : s.board.Launched c stage now b'

variable (s : Scheduler) {t : Trigger} (now : Timestamp)

theorem leave_enter (h : s.inFlight.contains t.pipeline = false) :
    { s with inFlight := s.inFlight.insert t.pipeline () }.leave t = s := by
  have hn : s.inFlight.get? t.pipeline = none := by
    unfold Table.contains at h
    simpa using h
  unfold leave
  dsimp only
  rw [Table.erase_insert, Table.erase_eq_self hn]

theorem launched_of_decide {p : Pipeline} {c : BuildCause} {stage : Stage}
    (named : p.name = t.pipeline)
    (h : c = t.cause p (s.latest? t.pipeline) now) :
    let s' := (s.createJobs c stage.name now stage.jobs).2
    let c' := { c with jobs := (s.createJobs c stage.name now stage.jobs).1 }
    s.board.Launched c' stage now (s'.saveCause c').board := by
  intro s' c'
  obtain ⟨-, next, causes, size⟩ := createJobs_snd (s := s) c stage.name now stage.jobs
  have counter : c.counter = s.board.repository.counter c.pipeline + 1 := by
    have hp : c.pipeline = t.pipeline := by rw [h, ← named]; rfl
    rw [hp, h]
    exact t.counter_cause p s.board.repository now
  have latest (q : String) : s'.board.repository.latest? q = s.board.repository.latest? q := by
    unfold Repository.latest?
    rw [causes]
  have same : s'.board.repository.counter c.pipeline = s.board.repository.counter c.pipeline := by
    unfold Repository.counter
    rw [latest]
  have saved (q : String) : (s'.saveCause c').board.repository.latest? q =
      if q = c.pipeline ∧ s'.board.repository.counter q ≤ c.counter then some c'
      else s'.board.repository.latest? q := s'.board.repository.latest?_saveCause c' q
  constructor
  case numbers => exact createJobs_fst c stage.name now stage.jobs
  case next => exact next
  case kept => exact fun id hid => get?_createJobs_of_not_mem c stage.name now hid
  case listed => exact fun id hid => get?_createJobs_of_mem c stage.name now hid
  case distinct => exact fun numbered few => (made_createJobs c stage.name now numbered few).1
  case free => exact fun numbered few => (made_createJobs c stage.name now numbered few).2.1
  case made => exact fun numbered few => (made_createJobs c stage.name now numbered few).2.2.1
  case size => exact size
  case grown => exact fun numbered few => (made_createJobs c stage.name now numbered few).2.2.2.1
  case standing =>
    exact fun numbered few => (made_createJobs c stage.name now numbered few).2.2.2.2
  case counter => exact counter
  case latest =>
    intro positive
    have hle : s'.board.repository.counter c.pipeline ≤ c.counter := by
      change c.counter ≠ 0 at positive
      rw [same]
      rw [counter] at positive ⊢
      exact le_add_one positive
    exact (saved c.pipeline).trans (if_pos ⟨rfl, hle⟩)
  case others =>
    intro q hq
    rw [saved, if_neg fun h => hq h.1, latest]

/-- A trigger that is in flight is refused, or sets a run off. -/
theorem carryOut_cases {p : Pipeline} (named : p.name = t.pipeline) :
    (∃ outcome, t.decide p s.permissions (s.latest? t.pipeline) now = .error outcome ∧
      s.carryOut p t now = (outcome, s)) ∨
    ∃ stage c b', t.refusal? p s.permissions = none ∧ p.firstStage? = some stage ∧
      c = { t.cause p (s.latest? t.pipeline) now with jobs := c.jobs } ∧
      s.board.Launched c stage now b' ∧
      s.carryOut p t now = (.scheduled c.pipeline c.label c.jobs, { s with board := b' }) := by
  unfold carryOut
  cases decided : t.decide p s.permissions (s.latest? t.pipeline) now with
  | error outcome => exact .inl ⟨outcome, rfl, rfl⟩
  | ok run =>
    obtain ⟨c, stage⟩ := run
    obtain ⟨admitted, -, -, first, hc⟩ := Trigger.decide_eq_ok_iff.1 decided
    have same := (createJobs_snd (s := s) c stage.name now stage.jobs).1
    refine .inr ⟨stage, _, _, admitted, first, ?_, launched_of_decide s now named hc, ?_⟩
    · rw [hc]
    · dsimp only
      rw [same]
      rfl

/-- A trigger of a pipeline of which none is in flight. -/
theorem trigger_of_found (free : s.inFlight.contains t.pipeline = false) {p : Pipeline}
    (found : s.config.pipeline? t.pipeline = some p) :
    let entered := { s with inFlight := s.inFlight.insert t.pipeline () }
    s.trigger t now = ((entered.carryOut p t now).1, (entered.carryOut p t now).2.leave t) := by
  unfold trigger enter
  rw [found]
  dsimp only
  rw [free]
  rfl

/-- A trigger is turned away or refused, or sets a run off. -/
theorem trigger_cases (free : s.inFlight.contains t.pipeline = false) :
    (s.config.pipeline? t.pipeline = none ∧ s.trigger t now = (.unknownPipeline t.pipeline, s)) ∨
    (∃ p outcome, s.config.pipeline? t.pipeline = some p ∧
      t.decide p s.permissions (s.latest? t.pipeline) now = .error outcome ∧
      s.trigger t now = (outcome, s)) ∨
    ∃ p stage c b', s.Launches t now p stage c b' ∧
      s.trigger t now = (.scheduled c.pipeline c.label c.jobs, { s with board := b' }) := by
  cases found : s.config.pipeline? t.pipeline with
  | none =>
    refine .inl ⟨rfl, ?_⟩
    unfold trigger enter
    rw [found]
  | some p =>
    let entered := { s with inFlight := s.inFlight.insert t.pipeline () }
    have named : p.name = t.pipeline := (Config.of_pipeline? found).2
    have left (b : Board) : { entered with board := b }.leave t = { s with board := b } :=
      leave_enter { s with board := b } free
    refine .inr ?_
    rw [trigger_of_found s now free found]
    rcases entered.carryOut_cases now named with ⟨outcome, decided, he⟩ |
      ⟨stage, c, b', admitted, first, hc, launched, he⟩
    · refine .inl ⟨p, outcome, rfl, decided, ?_⟩
      rw [he]
      exact Prod.ext rfl (left s.board)
    · refine .inr ⟨p, stage, c, b', ⟨found, admitted, first, hc, launched⟩, ?_⟩
      rw [he]
      exact Prod.ext rfl (left b')

theorem trigger_ne_alreadyInFlight (free : s.inFlight.contains t.pipeline = false) (q : String) :
    (s.trigger t now).1 ≠ .alreadyInFlight q := by
  rcases s.trigger_cases now free with ⟨-, ht⟩ | ⟨p, outcome, -, decided, ht⟩ |
    ⟨p, stage, c, b', -, ht⟩
  · rw [ht]
    exact nofun
  · rw [ht]
    exact Trigger.ne_alreadyInFlight_of_decide decided q
  · rw [ht]
    exact nofun

end Scheduler

end BuildDispatch
