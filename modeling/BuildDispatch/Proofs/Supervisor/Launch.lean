import BuildDispatch.Proofs.Supervisor.Holds
import BuildDispatch.Proofs.Supervisor.Watch

/-! A payload that is in place is launched when it is the one that is offered. -/
namespace BuildDispatch.Supervisor

section

variable {σ α β : Type} {rule : Program.Rule Action σ} {m m' : Moment σ}

theorem reaches_await {x : Action (Option α)} {a : α} {t : σ} (step : rule _ m.state x (some a) t) :
    Program.Reaches rule m (await x).run (m.after x (some a) t) (.done (.ok a)) :=
  .act .start step

theorem reaches_bind {x : Supervision α} {a : α} {q : Program Action (Except Ending β)}
    {m'' : Moment σ} {f : α → Supervision β} (run : Program.Reaches rule m x.run m' (.done (.ok a)))
    (rest : Program.Reaches rule m' (f a).run m'' q) :
    Program.Reaches rule m (x >>= f).run m'' q :=
  (run.bind _).trans rest

end

/-- What a supervisor is told as long as it is offered one manifest and nothing is downloaded. -/
def Told (n : Manifest) : {β : Type} → Action β → β → Prop
  | _, .manifest, answer => answer = some (.ok n)
  | _, .fetch, _ | _, .launch _, _ => False
  | _, _, _ => True

/-- Supervision up to a launch, as long as it is offered one manifest. -/
def Offered (n : Manifest) : Program.Rule Action Disk :=
  fun β d x b d' => Step β d x b d' ∧ Told n x b

/-- The moment when the payload in place was found to be the one that is offered. -/
def found (c : SupervisorSettings) (n : Manifest) (payload : Bytes) (m : Moment Disk) :
    Moment Disk :=
  let sized := (m.after .manifest (some (.ok n)) m.state).after (.fileLength c.payloadPath)
    (some (some n.length)) m.state
  sized.after (.read c.payloadPath) (some (some payload)) m.state

/-- The moment of a launch, right after the lock was found to be owned. -/
def owned (m : Moment Disk) : Moment Disk := m.after .isOwner true m.state

section

variable {c : SupervisorSettings} {n : Manifest} {payload : Bytes} {m m' : Moment Disk}

theorem reaches_isInstalled (there : m.state c.payloadPath = some payload)
    (verified : n.verifies payload = true) :
    let asked := m.after .manifest (some (.ok n)) m.state
    Program.Reaches (Offered n) asked (isInstalled c n).run (found c n payload m)
      (.done (.ok true)) := by
  intro asked
  have same : payload.length.toUInt64 = n.length := by
    simpa using (Bool.and_eq_true_iff.1 verified).1
  have length : Step _ m.state (.fileLength c.payloadPath) (some (some n.length)) m.state :=
    ⟨rfl, by simp [there, same]⟩
  have content : Step _ m.state (.read c.payloadPath) (some (some payload)) m.state :=
    ⟨rfl, by simp [there]⟩
  let sized := asked.after (.fileLength c.payloadPath) (some (some n.length)) m.state
  have sizes : Program.Reaches (Offered n) asked (await (.fileLength c.payloadPath)).run sized _ :=
    reaches_await ⟨length, trivial⟩
  refine reaches_bind sizes ?_
  rw [if_neg fun differs => differs rfl]
  refine reaches_bind (reaches_await (m := sized) ⟨content, trivial⟩) ?_
  dsimp only
  rw [verified]
  exact .start

theorem reaches_obtainManifest (left : Nat) :
    Program.Reaches (Offered n) m (obtainManifest c 0 left).run
      (m.after .manifest (some (.ok n)) m.state) (.done (.ok n)) := by
  cases left <;> exact reaches_bind (reaches_await ⟨rfl, rfl⟩) .start

theorem reaches_ensurePayload (there : m.state c.payloadPath = some payload)
    (verified : n.verifies payload = true) :
    Program.Reaches (Offered n) m (ensurePayload c).run (found c n payload m)
      (.done (.ok ⟨c.payloadPath, n⟩)) :=
  reaches_bind (reaches_obtainManifest (c.attempts - 1))
    (reaches_bind (reaches_isInstalled there verified) .start)

theorem reaches_backOff {crashes : UInt32} {lastCode : Option Int32} {time : Duration}
    (within : crashes ≤ c.maxRestarts)
    (told : c.restartBackoff.times? crashes.toNat = some time) :
    Program.Reaches (Offered n) m (backOff c crashes lastCode).run
      (m.after (.sleep .relaunch time) (some ()) m.state) (.done (.ok ())) := by
  unfold backOff pause
  rw [if_neg (UInt32.not_lt.2 within), told]
  exact reaches_await ⟨rfl, trivial⟩

/-- A failure after a launch is waited for before the next round. -/
theorem afterLaunch_reaches_watch {crashes count : UInt32} {exit : ProcessExit}
    {ranFor time : Duration} (checksum : String) (left : Nat) (failed : exit ≠ .code 0)
    (counted : (if c.healthyRun.nanos ≤ ranFor.nanos then 0 else crashes) + 1 = count)
    (within : count ≤ c.maxRestarts) (told : c.restartBackoff.times? count.toNat = some time) :
    Program.Reaches (Offered n) m (afterLaunch c crashes checksum left (.exited exit ranFor))
      (m.after (.sleep .relaunch time) (some ()) m.state)
      (watch c left ⟨count, some checksum, false⟩) := by
  unfold afterLaunch
  simp only [settle, if_neg failed, counted]
  exact (reaches_bind (reaches_backOff within told) .start).bind (resume c left)

theorem afterLaunch_exhausted {crashes count : UInt32} {exit : ProcessExit} {ranFor : Duration}
    (checksum : String) (left : Nat) (failed : exit ≠ .code 0)
    (counted : (if c.healthyRun.nanos ≤ ranFor.nanos then 0 else crashes) + 1 = count)
    (beyond : c.maxRestarts < count) :
    afterLaunch c crashes checksum left (.exited exit ranFor) =
      closing (some (.failed (.budgetExhausted count exit.code?))) := by
  unfold afterLaunch
  simp only [settle, if_neg failed, counted, backOff, if_pos beyond]
  rfl

theorem reaches_crashesBefore_failed {memory : Memory} (same : memory.isUnchanged n = true)
    (failed : memory.restartRequested = false) :
    Program.Reaches (Offered n) m (crashesBefore c memory n).run m
      (.done (.ok memory.crashes)) := by
  unfold crashesBefore
  rw [same, failed]
  exact .start

theorem reaches_crashesBefore_asked {memory : Memory} {count : UInt32} {time : Duration}
    (same : memory.isUnchanged n = true) (asked : memory.restartRequested = true)
    (counted : memory.crashes + 1 = count) (within : count ≤ c.maxRestarts)
    (told : c.restartBackoff.times? count.toNat = some time) :
    Program.Reaches (Offered n) m (crashesBefore c memory n).run
      (m.after (.sleep .relaunch time) (some ()) m.state) (.done (.ok count)) := by
  unfold crashesBefore
  rw [same, asked, counted]
  exact reaches_bind (reaches_backOff within told) .start

/-- A round comes to the launch, once it is settled what the latest one costs. -/
theorem watch_reaches_launch {memory : Memory} {crashes : UInt32} (left : Nat)
    (there : m.state c.payloadPath = some payload) (verified : n.verifies payload = true)
    (settled : Program.Reaches (Offered n) (found c n payload m) (crashesBefore c memory n).run m'
      (.done (.ok crashes))) :
    Program.Reaches (Offered n) m (watch c (left + 1) memory) (owned m')
      (.act (.launch ⟨c.payloadPath, n⟩) (afterLaunch c crashes n.checksum left)) := by
  rw [watch_succ_eq]
  refine ((reaches_ensurePayload there verified).bind _).trans ((settled.bind _).trans ?_)
  exact .act (b := true) .start ⟨rfl, trivial⟩

/-- The first round comes to the launch while nothing but that payload's manifest is offered. -/
theorem watch_start_reaches_launch (left : Nat) (there : m.state c.payloadPath = some payload)
    (verified : n.verifies payload = true) :
    Program.Reaches (Offered n) m (watch c (left + 1) .start) (owned (found c n payload m))
      (.act (.launch ⟨c.payloadPath, n⟩) (afterLaunch c 0 n.checksum left)) :=
  watch_reaches_launch left there verified .start

end

/-- A supervisor launches the payload that is in place, if it is the one that is offered. -/
theorem supervise_reaches_launch {c : SupervisorSettings} {n : Manifest} {payload : Bytes}
    {disk : Disk} (there : disk c.payloadPath = some payload) (verified : n.verifies payload = true)
    (left : Nat) :
    let locked : Moment Disk := Program.Moment.after ⟨[], disk⟩ .acquire true disk
    Reaches disk (supervise c (left + 1)) (owned (found c n payload locked))
      (.act (.launch ⟨c.payloadPath, n⟩) (afterLaunch c 0 n.checksum left)) := by
  intro locked
  have launched := watch_start_reaches_launch (m := locked) left there verified
  rw [supervise_eq]
  exact .trans (.act (b := true) .start rfl) (launched.imp fun step => step.1)

end BuildDispatch.Supervisor
