import BuildDispatch.Proofs.Supervisor.Launch
import BuildDispatch.Proofs.Supervisor.Ledger
import BuildDispatch.Proofs.Supervisor.Offer

/-!
A supervisor charges each failure once, waits for as long as that asks for, and gives up beyond its
budget (`restarts_bounded`).
-/
namespace BuildDispatch.Supervisor

/-- The latest launch failed, or the payload that is offered last is the same again. -/
def Chargeable (past : Program.Trace Action) (made : List Launch) : Prop :=
  ∃ l before, made = l :: before ∧
    (l.isFailure = true ∨ ∃ n, offer? past = some n ∧ n.checksum = l.checksum)

/-- The journal is the ledger of launches within the budget, perhaps with the next wait as well. -/
def Accounted (c : SupervisorSettings) (past : Program.Trace Action) : Prop :=
  ∃ made pending, journal past = pending ++ ledger c made ∧ WithinBudget c made ∧
    (pending = [] ∨ pending = [relaunchWait c made] ∧ Chargeable past made)

/-- The budget was exhausted by the launch that was made last, and these are its count and code. -/
def Exhausted (c : SupervisorSettings) (crashes : UInt32) (lastCode : Option Int32)
    (made : List Launch) : Prop :=
  crashes.toNat = c.maxRestarts.toNat + 1 ∧ charged c made = c.maxRestarts.toNat + 1 ∧
    ∃ l before, made = l :: before ∧ lastCode = l.code?

/-- How supervision ends leaves it accounted, and the budget is exhausted if it says so. -/
def EndsAccounted {σ : Type} (c : SupervisorSettings) (m : Moment σ) (e : Ending) : Prop :=
  Accounted c m.past ∧ ∀ crashes lastCode, e = .failed (.budgetExhausted crashes lastCode) →
    Exhausted c crashes lastCode (launches (journal m.past))

/-- What is remembered from one round to the next fits the launches that were made. -/
structure Remembers (c : SupervisorSettings) (memory : Memory) (made : List Launch) : Prop where
  checksum : memory.lastChecksum = made.head?.map (·.checksum)
  /-- A wish for a restart is not charged yet. -/
  crashes : charged c made = memory.crashes.toNat + if memory.restartRequested then 1 else 0
  within : memory.crashes.toNat ≤ c.maxRestarts.toNat
  asked : memory.restartRequested = true → ∀ l before, made = l :: before →
    l.isFailure = false ∧ l.code? = some 0
  failed : memory.restartRequested = false → ∀ l before, made = l :: before → l.isFailure = true

/-- Between two rounds the journal holds the wait that is due anyway, and no other. -/
def Settled {σ : Type} (c : SupervisorSettings) (m : Moment σ) (memory : Memory) : Prop :=
  ∃ made, journal m.past = owed c made ++ ledger c made ∧ WithinBudget c made ∧
    Remembers c memory made

abbrev Accountably {σ α : Type} (rule : Program.Rule Action σ) (c : SupervisorSettings) :
    (Moment σ → α → Prop) → Supervision α → Moment σ → Prop :=
  Holds rule (fun m _ _ => Accounted c m.past) (EndsAccounted c)

section

variable {σ : Type} {rule : Program.Rule Action σ} {c : SupervisorSettings} {m : Moment σ}
  {made : List Launch} {past : Program.Trace Action} {n : Manifest} {memory : Memory}

theorem accounted_ledger (h : journal past = ledger c made) (within : WithinBudget c made) :
    Accounted c past :=
  ⟨made, [], h, within, .inl rfl⟩

theorem accounted_owed (h : journal past = owed c made ++ ledger c made)
    (within : WithinBudget c made) : Accounted c past := by
  refine ⟨made, owed c made, h, within, ?_⟩
  cases made with
  | nil => exact .inl rfl
  | cons l before =>
    cases failure : l.isFailure with
    | false => exact .inl (by simp [owed, failure])
    | true => exact .inr ⟨by simp [owed, failure], l, before, rfl, .inl failure⟩

theorem accounted_due (h : journal past = due c n.checksum made ++ ledger c made)
    (within : WithinBudget c made) (offered : offer? past = some n) : Accounted c past := by
  cases again : continues n.checksum made with
  | false =>
    rw [due_of_not_continues again] at h
    exact accounted_owed h within
  | true =>
    rw [due_of_continues again] at h
    cases made with
    | nil => cases again
    | cons l before =>
      have same : l.checksum = n.checksum := by simpa [continues] using again
      exact ⟨_, _, h, within, .inr ⟨rfl, l, before, rfl, .inr ⟨n, offered, same.symm⟩⟩⟩

theorem Accounted.ends {e : Ending} (h : Accounted c m.past) (other : e.isExhausted = false) :
    EndsAccounted c m e := by
  refine ⟨h, ?_⟩
  rintro crashes lastCode rfl
  cases other

theorem Remembers.isUnchanged (h : Remembers c memory made) :
    memory.isUnchanged n = continues n.checksum made := by
  unfold Memory.isUnchanged
  rw [h.checksum]
  cases made <;> simp [continues]

theorem Remembers.charged_of_failed (h : Remembers c memory made)
    (failed : memory.restartRequested = false) : charged c made = memory.crashes.toNat := by
  rw [h.crashes, failed]
  rfl

theorem Remembers.charged_of_asked (h : Remembers c memory made)
    (asked : memory.restartRequested = true) : charged c made = memory.crashes.toNat + 1 := by
  rw [h.crashes, asked]
  rfl

/-- What is charged is waited for, or it exhausts the budget. -/
theorem backOff_accountably
    (short : c.restartBackoff.nanos * c.maxRestarts.toNat < durationLimit) {crashes : UInt32}
    {lastCode : Option Int32} (count : charged c made = crashes.toNat)
    (top : crashes.toNat ≤ c.maxRestarts.toNat + 1) (h : journal m.past = ledger c made)
    (within : WithinBudget c made) (code : ∃ l before, made = l :: before ∧ lastCode = l.code?)
    (chargeable : Chargeable m.past made) :
    Accountably rule c (fun m' _ => journal m'.past = relaunchWait c made :: ledger c made ∧
      charged c made ≤ c.maxRestarts.toNat ∧ offer? m'.past = offer? m.past)
      (backOff c crashes lastCode) m := by
  unfold backOff
  by_cases beyond : c.maxRestarts < crashes
  · rw [if_pos beyond]
    have exact : crashes.toNat = c.maxRestarts.toNat + 1 := by
      have above := UInt32.lt_iff_toNat_lt.1 beyond
      omega
    refine .bind (.fail ⟨accounted_ledger h within, ?_⟩)
    rintro _ _ ⟨⟩
    rw [h, launches_ledger]
    exact ⟨exact, count.trans exact, code⟩
  · rw [if_neg beyond]
    have few : crashes.toNat ≤ c.maxRestarts.toNat := by
      have below := mt UInt32.lt_iff_toNat_lt.2 beyond
      omega
    have told : c.restartBackoff.nanos * crashes.toNat < durationLimit :=
      (Nat.mul_le_mul_left _ few).trans_lt short
    have waited (r : Option Unit) (t : σ) :
        let m' := m.after (.sleep .relaunch ⟨_, told⟩) r t
        journal m'.past = relaunchWait c made :: ledger c made ∧ Accounted c m'.past := by
      have entry : journal (m.after (.sleep .relaunch ⟨_, told⟩) r t).past =
          relaunchWait c made :: ledger c made := by
        rw [← h, relaunchWait, count]
        rfl
      exact ⟨entry, made, [relaunchWait c made], entry, within, .inr ⟨rfl, chargeable⟩⟩
    simp only [pause, Duration.times?, dif_pos told]
    refine .await (accounted_ledger h within) (fun r t _ => ?_) fun t _ => ?_
    · exact ⟨(waited (some r) t).1, count ▸ few, rfl⟩
    · exact (waited none t).2.ends rfl

theorem toNat_succ (few : c.maxRestarts.toNat < UInt32.size - 1) {crashes : UInt32}
    (within : crashes.toNat ≤ c.maxRestarts.toNat) :
    (crashes + 1).toNat = crashes.toNat + 1 := by
  rw [UInt32.toNat_add, UInt32.toNat_one]
  unfold UInt32.size at few
  exact Nat.mod_eq_of_lt (by omega)

/-- What is known when the payload is about to be launched, with so many crashes before it. -/
structure Launching (c : SupervisorSettings) (made : List Launch) (n : Manifest) (m : Moment σ)
    (crashes : UInt32) : Prop where
  journal : journal m.past = due c n.checksum made ++ ledger c made
  offered : offer? m.past = some n
  waited : due c n.checksum made ≠ [] → charged c made ≤ c.maxRestarts.toNat
  count : crashes.toNat = if continues n.checksum made then charged c made else 0
  within : crashes.toNat ≤ c.maxRestarts.toNat

/-- Another payload, or one that failed: what was owed is all that is due. -/
theorem launching_unasked (remembers : Remembers c memory made)
    (h : journal m.past = owed c made ++ ledger c made) (offered : offer? m.past = some n)
    (settled : continues n.checksum made = true → memory.restartRequested = false) :
    Launching c made n m (if continues n.checksum made then memory.crashes else 0) := by
  have same : due c n.checksum made = owed c made := by
    cases again : continues n.checksum made with
    | false => exact due_of_not_continues again
    | true =>
      cases made with
      | nil => rfl
      | cons l before =>
        have failure := remembers.failed (settled again) l before rfl
        rw [due_of_continues again, owed, if_pos failure]
  refine ⟨by rw [same, h], offered, fun wait => ?_, ?_, ?_⟩
  · rw [same] at wait
    cases asked : memory.restartRequested with
    | false => exact remembers.charged_of_failed asked ▸ remembers.within
    | true =>
      cases made with
      | nil => exact absurd rfl wait
      | cons l before => exact absurd (by simp [owed, (remembers.asked asked l before rfl).1]) wait
  · cases again : continues n.checksum made with
    | false => rfl
    | true => exact (remembers.charged_of_failed (settled again)).symm
  · split_ifs
    · exact remembers.within
    · exact Nat.zero_le _

/-- The same payload after a wish for a restart: the wish is charged. -/
theorem backOff_asked (few : c.maxRestarts.toNat < UInt32.size - 1)
    (short : c.restartBackoff.nanos * c.maxRestarts.toNat < durationLimit)
    (h : journal m.past = owed c made ++ ledger c made) (within : WithinBudget c made)
    (remembers : Remembers c memory made) (offered : offer? m.past = some n)
    (again : continues n.checksum made = true) (asked : memory.restartRequested = true) :
    Accountably rule c (fun m' _ => Launching c made n m' (memory.crashes + 1))
      (backOff c (memory.crashes + 1) (some 0)) m := by
  obtain ⟨l, before, rfl⟩ : ∃ l before, made = l :: before := by
    cases made with
    | nil => cases again
    | cons l before => exact ⟨l, before, rfl⟩
  obtain ⟨unfailed, code⟩ := remembers.asked asked l before rfl
  have next := toNat_succ few remembers.within
  have count : charged c (l :: before) = (memory.crashes + 1).toNat :=
    (remembers.charged_of_asked asked).trans next.symm
  have top : (memory.crashes + 1).toNat ≤ c.maxRestarts.toNat + 1 := by
    rw [next]
    exact Nat.succ_le_succ remembers.within
  have bare : journal m.past = ledger c (l :: before) := by
    rw [h, owed, unfailed]
    rfl
  have checksum : l.checksum = n.checksum := by simpa [continues] using again
  have wait : Accountably rule c _ (backOff c (memory.crashes + 1) (some 0)) m :=
    backOff_accountably short count top bare within ⟨l, before, rfl, code.symm⟩
      ⟨l, before, rfl, .inr ⟨n, offered, checksum.symm⟩⟩
  refine wait.mono ?_
  rintro m' - ⟨entry, bound, silent⟩
  refine ⟨?_, silent.trans offered, fun _ => bound, ?_, count ▸ bound⟩
  · rw [entry, due_of_continues again]
    rfl
  · rw [again, if_pos rfl, count]

theorem crashesBefore_accountably (few : c.maxRestarts.toNat < UInt32.size - 1)
    (short : c.restartBackoff.nanos * c.maxRestarts.toNat < durationLimit)
    (h : journal m.past = owed c made ++ ledger c made) (within : WithinBudget c made)
    (remembers : Remembers c memory made) (offered : offer? m.past = some n) :
    Accountably rule c (Launching c made n) (crashesBefore c memory n) m := by
  unfold crashesBefore
  rw [remembers.isUnchanged]
  -- Only now that the next payload is known can a wish for a restart turn out to be in vain.
  cases again : continues n.checksum made with
  | false =>
    have launching := launching_unasked remembers h offered (by simp [again])
    rw [again] at launching
    exact .pure launching
  | true =>
    cases asked : memory.restartRequested with
    | false =>
      have launching := launching_unasked remembers h offered fun _ => asked
      rw [again] at launching
      exact .pure launching
    | true =>
      have wait : Accountably rule c _ (backOff c (memory.crashes + 1) (some 0)) m :=
        backOff_asked few short h within remembers offered again asked
      exact .bind (wait.mono fun m _ launching => .pure launching)

/-- A run that was long enough starts the count anew, and then it is charged. -/
theorem charged_of_exited {l : Launch} {before : List Launch} {exit : ProcessExit}
    {ranFor : Duration} {crashes : UInt32} (stop : l.stop = .exited exit ranFor)
    (count : crashes.toNat = if continues l.checksum before then charged c before else 0) :
    charged c (l :: before) =
      (if c.healthyRun.nanos ≤ ranFor.nanos then 0 else crashes : UInt32).toNat + 1 := by
  unfold charged
  rw [Launch.isHealthy, stop]
  by_cases healthy : c.healthyRun.nanos ≤ ranFor.nanos
  · simp [healthy]
  · cases again : continues l.checksum before <;> simp [healthy, count, again]

theorem settle_accountably (few : c.maxRestarts.toNat < UInt32.size - 1)
    (short : c.restartBackoff.nanos * c.maxRestarts.toNat < durationLimit) {crashes : UInt32}
    {l : Launch} {before : List Launch} (h : journal m.past = ledger c (l :: before))
    (within : WithinBudget c (l :: before))
    (count : crashes.toNat = if continues l.checksum before then charged c before else 0)
    (top : crashes.toNat ≤ c.maxRestarts.toNat) :
    Accountably rule c (Settled c) (settle c crashes l.checksum l.stop) m := by
  have accounted := accounted_ledger h within
  cases stop : l.stop with
  | shutDown => exact .throw (accounted.ends rfl)
  | lockLost => exact .fail (accounted.ends rfl)
  | exited exit ranFor =>
    let settled : UInt32 := if c.healthyRun.nanos ≤ ranFor.nanos then 0 else crashes
    have charge : charged c (l :: before) = settled.toNat + 1 := charged_of_exited stop count
    have few' : settled.toNat ≤ c.maxRestarts.toNat := by
      unfold settled
      split_ifs
      · exact Nat.zero_le _
      · exact top
    -- A failure is charged at once, a wish for a restart not before the next round.
    by_cases asked : exit = .code 0
    · have unfailed : l.isFailure = false := by simp [Launch.isFailure, stop, asked]
      have code : l.code? = some 0 := by
        rw [Launch.code?, stop, asked]
        rfl
      simp only [settle, if_pos asked]
      refine .pure ⟨l :: before, ?_, within, rfl, charge, few', ?_, ?_⟩
      · rw [h, owed, unfailed]
        rfl
      · rintro - _ _ ⟨⟩
        exact ⟨unfailed, code⟩
      · intro failed
        cases failed
    · have failure : l.isFailure = true := by simp [Launch.isFailure, stop, asked]
      have code : exit.code? = l.code? := by rw [Launch.code?, stop]
      have next := toNat_succ few few'
      have wait : Accountably rule c _ (backOff c (settled + 1) exit.code?) m :=
        backOff_accountably short (charge.trans next.symm) (by omega) h within
          ⟨l, before, rfl, code⟩ ⟨l, before, rfl, .inl failure⟩
      simp only [settle, if_neg asked]
      refine .bind (wait.mono ?_)
      rintro m' - ⟨entry, bound, -⟩
      refine .pure ⟨l :: before, ?_, within, rfl, charge.trans next.symm, ?_, ?_, ?_⟩
      · rw [entry, owed, if_pos failure]
        rfl
      · change (settled + 1).toNat ≤ _
        rw [next, ← charge]
        exact bound
      · intro asked
        cases asked
      · rintro - _ _ ⟨⟩
        exact failure

theorem round_accountably (few : c.maxRestarts.toNat < UInt32.size - 1)
    (short : c.restartBackoff.nanos * c.maxRestarts.toNat < durationLimit)
    (h : Settled c m memory) : Accountably rule c (Settled c) (round c memory) m := by
  obtain ⟨made, entries, within, remembers⟩ := h
  have obtains : Obtains c rule (fun m _ _ => Accounted c m.past) (EndsAccounted c)
      (fun m => journal m.past = owed c made ++ ledger c made) fun _ _ => True := by
    refine obtains_aside (fun m _ _ h => accounted_owed h within)
      (fun m e h other => (accounted_owed h within).ends other) fun m β x b t h away => ?_
    cases x with
    | launch => cases away
    | sleep reason =>
      cases reason with
      | download => exact h
      | relaunch => cases away
    | _ => exact h
  refine .bind ((obtains.ensurePayload entries).mono ?_)
  rintro m p ⟨entries, -, offered, -⟩
  refine .bind ((crashesBefore_accountably few short entries within remembers offered).mono ?_)
  rintro m crashes ⟨entries, offered, waited, count, top⟩
  have accounted := accounted_due entries within offered
  refine .bind (.ask accounted fun owner t _ => ?_)
  have asked : Accounted c (m.after .isOwner owner t).past :=
    accounted_due (n := p.manifest) entries within offered
  cases owner with
  | false => exact .bind (.fail (asked.ends rfl))
  | true =>
    refine .bind (.ask asked fun stop t _ => ?_)
    exact settle_accountably few short (l := ⟨p.manifest.checksum, stop⟩)
      (congrArg (Entry.launch _ :: ·) entries) (within.cons waited) count top

theorem settled_start (s : σ) : Settled c (⟨[], s⟩ : Moment σ) .start :=
  ⟨[], rfl, withinBudget_nil, rfl, rfl, Nat.zero_le _, nofun, nofun⟩

theorem Settled.accounted (h : Settled c m memory) : Accounted c m.past := by
  obtain ⟨made, entries, within, -⟩ := h
  exact accounted_owed entries within

/-- What holds at every moment of supervision, and at its end. -/
theorem supervise_accountably (few : c.maxRestarts.toNat < UInt32.size - 1)
    (short : c.restartBackoff.nanos * c.maxRestarts.toNat < durationLimit) (most : Nat) (s : σ) :
    Program.Safe rule (fun m _ _ => Accounted c m.past)
      (fun m r => Accounted c m.past ∧ ∀ e, r = some e → EndsAccounted c m e)
      (supervise c most) ⟨[], s⟩ := by
  refine .bind (.ask (settled_start s).accounted fun acquired t _ => ?_)
  cases acquired with
  | false =>
    refine ⟨(settled_start t).accounted, ?_⟩
    rintro _ ⟨⟩
    exact Accounted.ends (settled_start t).accounted rfl
  | true =>
    have step (memory : Memory) (m : Moment σ) (h : Settled c m memory) :
        Program.Safe rule (fun m _ _ => Accounted c m.past)
          (fun m => Program.Round.Meets (Settled c m) (EndsAccounted c m)) (step c memory) m := by
      refine .bind (Program.Safe.mono (round_accountably few short h) (fun _ _ _ here => here) ?_)
      rintro m (ending | memory) h
      · exact h
      · exact h
    have rounds := Program.Safe.rounds step most (s := Memory.start)
      (m := Program.Moment.after ⟨[], s⟩ .acquire true t) (settled_start t)
    refine .bind (rounds.mono (fun _ _ _ here => here) ?_)
    rintro m (_ | ending) h
    · obtain ⟨memory, h⟩ := h
      exact ⟨h.accounted, nofun⟩
    · cases ending with
      | aborted => exact ⟨h.1, by rintro _ ⟨⟩; exact h⟩
      | shutDown | failed =>
        refine .bind (.ask h.1 fun _ t _ => ?_)
        exact ⟨h.1, by rintro _ ⟨⟩; exact h⟩

end

/--
Whatever is answered, unless the wait for a full budget is longer than can be told. At every moment:
launches in a row of one payload, of which all but the latest were too short to make good, are one
more than the budget at most. The journal of launches and of the waits before them is what the
ledger says: each failure, and each wish for a restart in vain, is charged once and waited for so
many times as long. The next wait may have begun, if the latest launch is to be charged. When the
budget is exhausted, the failures are one more than it, and the code is that of the latest launch.
-/
theorem restarts_bounded {σ : Type} {rule : Program.Rule Action σ} {c : SupervisorSettings}
    {most : Nat} {s : σ} {m : Moment σ} {rest : Program Action (Option Ending)}
    (few : c.maxRestarts.toNat < UInt32.size - 1)
    (short : c.restartBackoff.nanos * c.maxRestarts.toNat < durationLimit)
    (reached : Program.Reaches rule ⟨[], s⟩ (supervise c most) m rest) :
    let made := launches (journal m.past)
    (∀ stretch, stretch <:+: made →
      (∀ l ∈ stretch, ∀ k ∈ stretch, l.checksum = k.checksum) →
      (∀ l ∈ stretch.tail, l.isHealthy c = false) →
      stretch.length ≤ c.maxRestarts.toNat + 1) ∧
    (journal m.past = ledger c made ∨
      journal m.past = relaunchWait c made :: ledger c made ∧ Chargeable m.past made) ∧
    (∀ crashes lastCode, rest = .done (some (.failed (.budgetExhausted crashes lastCode))) →
      Exhausted c crashes lastCode made) := by
  intro made
  have safe := (supervise_accountably few short most s).reached reached
  have accounted : Accounted c m.past := by
    cases rest with
    | done => exact safe.1
    | act => exact safe.1
  obtain ⟨made', pending, entries, within, due⟩ := accounted
  have same : made = made' := by
    unfold made
    rw [entries]
    rcases due with rfl | ⟨rfl, -⟩ <;> simp
  refine ⟨fun stretch part alike ill => ?_, ?_, ?_⟩
  · rw [same] at part
    exact within.length_le part alike ill
  · rw [same]
    rcases due with rfl | ⟨rfl, chargeable⟩
    · exact .inl entries
    · exact .inr ⟨entries, chargeable⟩
  · rintro crashes lastCode rfl
    exact (safe.2 _ rfl).2 crashes lastCode rfl

/--
With a budget of one, the same payload is launched three times. The second run makes good for the
first, which failed. It ends with a wish for a restart in vain, and with the third that is too much.
-/
theorem restarts_bounded_reset :
    let c : SupervisorSettings := ⟨"lock", "payload", 1, .ofSecs 2, .ofSecs 600, 5, .ofSecs 2⟩
    let n := Manifest.describe "v1" [1, 2, 3]
    let disk : Disk := fun path => if path = "payload" then some [1, 2, 3] else none
    let made : List Launch := [⟨n.checksum, .exited .signal (.ofSecs 1)⟩,
      ⟨n.checksum, .exited (.code 0) (.ofSecs 1000)⟩, ⟨n.checksum, .exited (.code 1) (.ofSecs 1)⟩]
    ∃ m : Moment Disk, Reaches disk (supervise c 3) m
        (.done (some (.failed (.budgetExhausted 2 none)))) ∧
      launches (journal m.past) = made ∧ charged c made = 2 ∧ journal m.past = ledger c made := by
  intro c n disk made
  have verified : n.verifies [1, 2, 3] = true := Manifest.verifies_describe "v1" [1, 2, 3]
  have same {count : UInt32} {asked : Bool} :
      (Memory.mk count (some n.checksum) asked).isUnchanged n = true := decide_eq_true rfl
  have told : c.restartBackoff.times? 1 = some (.ofSecs 2) := by decide
  have goesOn {m m' : Moment Disk} {now next : Program Action (Option Ending)}
      (run : Reaches disk (supervise c 3) m now)
      (later : Program.Reaches (Offered n) m now m' next) : Reaches disk (supervise c 3) m' next :=
    run.trans (later.imp fun step => step.1)
  have there : disk c.payloadPath = some [1, 2, 3] := rfl
  have first := supervise_reaches_launch there verified 2
  have failed : Reaches disk (supervise c 3) _ (afterLaunch c 0 n.checksum 2 _) :=
    .act (b := LaunchEnd.exited (.code 1) (.ofSecs 1)) first rfl
  have waited := goesOn failed
    (afterLaunch_reaches_watch n.checksum 2 (by decide) rfl (by decide) told)
  have second := goesOn waited
    (watch_reaches_launch 1 rfl verified (reaches_crashesBefore_failed same rfl))
  have asked : Reaches disk (supervise c 3) _ (afterLaunch c 1 n.checksum 1 _) :=
    .act (b := LaunchEnd.exited (.code 0) (.ofSecs 1000)) second rfl
  rw [afterLaunch_restart] at asked
  have third := goesOn asked (watch_reaches_launch 0 rfl verified
    (reaches_crashesBefore_asked same rfl rfl (by decide) told))
  have killed : Reaches disk (supervise c 3) _ (afterLaunch c 1 n.checksum 0 _) :=
    .act (b := LaunchEnd.exited .signal (.ofSecs 1)) third rfl
  rw [afterLaunch_exhausted n.checksum 0 (by decide) rfl (by decide)] at killed
  have reached : Reaches disk (supervise c 3) _
      (.done (some (.failed (.budgetExhausted 2 none)))) := .act (b := ()) killed rfl
  obtain ⟨-, account, exhausted⟩ := restarts_bounded (by decide) (by decide) reached
  obtain ⟨-, count, -⟩ := exhausted 2 none rfl
  have entries := account.resolve_right fun ⟨wait, _⟩ => nomatch (List.cons.inj wait).1
  exact ⟨_, reached, rfl, count, entries⟩

end BuildDispatch.Supervisor
