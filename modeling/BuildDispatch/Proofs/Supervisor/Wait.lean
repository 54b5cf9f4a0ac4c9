import BuildDispatch.Proofs.Supervisor.Holds

/-!
How the parts of supervision wait. Between launches nothing is done but to wait for answers, and an
answer that cuts supervision short ends it at once (`ensurePayload_heeds`, `crashesBefore_heeds`).
-/
namespace BuildDispatch.Supervisor

/-- Whether supervision waits for an action until a shutdown breaks it off. -/
def Action.isWait {β : Type} : Action β → Bool
  | .acquire | .release | .isOwner | .launch _ => false
  | _ => true

/-- How an answer cuts supervision short: the lock is lost, or a shutdown broke an action off. -/
def cut? (c : SupervisorSettings) : (Σ β : Type, Action β × β) → Option Ending
  | ⟨_, .isOwner, false⟩ | ⟨_, .launch _, .lockLost⟩ => some (.failed (.lockLost c.lockPath))
  | ⟨_, .launch _, .shutDown⟩ | ⟨_, .manifest, none⟩ | ⟨_, .fetch, none⟩ | ⟨_, .fileLength _, none⟩
  | ⟨_, .read _, none⟩ | ⟨_, .makeDirectory _, none⟩ | ⟨_, .write .., none⟩
  | ⟨_, .makeExecutable _, none⟩ | ⟨_, .rename .., none⟩ | ⟨_, .sleep .., none⟩ => some .shutDown
  | _ => none

/-- Whether supervision can end so without an answer that cuts it short. -/
def Ending.isOwn : Ending → Bool
  | .shutDown | .failed (.alreadyRunning _) | .failed (.lockLost _) => false
  | _ => true

variable {α β : Type}

/-- Every action is a wait, and an answer that cuts supervision short is the last. -/
def Heeds (c : SupervisorSettings) : Program Action (Except Ending α) → Prop
  | .done (.ok _) => True
  | .done (.error e) => e.isOwn = true
  | .act x next => x.isWait = true ∧ ∀ b, (cut? c ⟨_, x, b⟩ = none → Heeds c (next b)) ∧
      ∀ e, cut? c ⟨_, x, b⟩ = some e → next b = .done (.error e)

namespace Heeds

variable {c : SupervisorSettings}

theorem pure {a : α} : Heeds c (Pure.pure a : Supervision α).run := trivial

theorem throw {e : Ending} (own : e.isOwn = true) : Heeds c (throw e : Supervision α).run := own

theorem fail {e : SupervisorError} (own : (Ending.failed e).isOwn = true) :
    Heeds c (fail e : Supervision α).run := own

theorem bind {x : Supervision α} {f : α → Supervision β} (h : Heeds c x.run)
    (rest : ∀ a, Heeds c (f a).run) : Heeds c (x >>= f).run := by
  change Heeds c (Program.bind x.run (ExceptT.bindCont f))
  generalize x.run = p at h
  induction p with
  | done r =>
    cases r with
    | ok a => exact rest a
    | error e => exact h
  | act y next ih =>
    obtain ⟨wait, later⟩ := h
    refine ⟨wait, fun b => ⟨fun uncut => ih b ((later b).1 uncut), fun e cut => ?_⟩⟩
    dsimp only
    rw [(later b).2 e cut]
    rfl

theorem await {x : Action (Option α)} (wait : x.isWait = true)
    (answered : ∀ a, cut? c ⟨_, x, some a⟩ = none) (broken : cut? c ⟨_, x, none⟩ = some .shutDown) :
    Heeds c (await x).run := by
  refine ⟨wait, fun b => ?_⟩
  cases b with
  | none =>
    refine ⟨fun uncut => ?_, fun e cut => ?_⟩
    · rw [broken] at uncut
      cases uncut
    · obtain rfl : Ending.shutDown = e := Option.some.inj (broken.symm.trans cut)
      rfl
  | some a =>
    refine ⟨fun _ => trivial, fun e cut => ?_⟩
    rw [answered a] at cut
    cases cut

theorem pause {reason : Pause} {time : Duration} {times : Nat} :
    Heeds c (pause reason time times).run := by
  unfold Supervisor.pause
  cases time.times? times with
  | none => exact throw rfl
  | some total => exact await rfl (fun _ => rfl) rfl

end Heeds

variable (c : SupervisorSettings)

theorem obtainManifest_heeds (made left : Nat) : Heeds c (obtainManifest c made left).run := by
  induction left generalizing made with
  | zero =>
    refine .bind (.await rfl (fun _ => rfl) rfl) fun r => ?_
    cases r with
    | ok n => exact .pure
    | error e => exact .fail rfl
  | succ left ih =>
    refine .bind (.await rfl (fun _ => rfl) rfl) fun r => ?_
    cases r with
    | ok n => exact .pure
    | error e =>
      dsimp only
      cases e.isTransient with
      | false => exact .bind (.fail rfl) fun _ => .bind .pause fun _ => ih (made + 1)
      | true => exact .bind .pause fun _ => ih (made + 1)

theorem isInstalled_heeds (n : Manifest) : Heeds c (isInstalled c n).run := by
  refine .bind (.await rfl (fun _ => rfl) rfl) fun length => ?_
  by_cases same : length = some n.length
  · rw [if_neg fun differs => differs same]
    refine .bind (.await rfl (fun _ => rfl) rfl) fun content => ?_
    cases content with
    | none => exact .pure
    | some payload => exact .pure
  · rw [if_pos same]
    exact .pure

theorem installStep_heeds {x : Action (Option (Except String Unit))}
    (h : Heeds c (await x).run) : Heeds c (installStep c x).run := by
  refine .bind h fun r => ?_
  cases r with
  | ok => exact .pure
  | error reason => exact .fail rfl

theorem install_heeds (payload : Bytes) : Heeds c (install c payload).run := by
  have rest : Heeds c (do
      installStep c (.write c.partialPath payload)
      installStep c (.makeExecutable c.partialPath)
      installStep c (.rename c.partialPath c.payloadPath)).run :=
    .bind (installStep_heeds c (.await rfl (fun _ => rfl) rfl)) fun _ =>
      .bind (installStep_heeds c (.await rfl (fun _ => rfl) rfl)) fun _ =>
        installStep_heeds c (.await rfl (fun _ => rfl) rfl)
  unfold install
  cases Path.parent? c.payloadPath with
  | none => exact rest
  | some directory =>
    exact .bind (installStep_heeds c (.await rfl (fun _ => rfl) rfl)) fun _ => rest

theorem fetchOnce_heeds (made : Nat) : Heeds c (fetchOnce c made).run := by
  refine .bind (.await rfl (fun _ => rfl) rfl) fun r => ?_
  rcases r with e | ⟨n, payload⟩
  · dsimp only
    cases e.isTransient with
    | false => exact .bind (.fail rfl) fun _ => .pure
    | true => exact .pure
  · dsimp only
    cases n.verifies payload with
    | false => exact .pure
    | true => exact .bind (install_heeds c payload) fun _ => .pure

theorem download_heeds (corrupt : Option String) (made left : Nat) :
    Heeds c (download c corrupt made left).run := by
  induction left generalizing corrupt made with
  | zero => exact .fail rfl
  | succ left ih =>
    refine .bind (fetchOnce_heeds c made) fun r => ?_
    rcases r with n | expected | e
    · exact .pure
    · cases left with
      | zero => exact ih (some expected) (made + 1)
      | succ left => exact .bind .pause fun _ => ih (some expected) (made + 1)
    · cases left with
      | zero => exact .bind (.fail rfl) fun _ => .bind .pause fun _ => ih corrupt (made + 1)
      | succ left => exact .bind .pause fun _ => ih corrupt (made + 1)

theorem ensurePayload_heeds : Heeds c (ensurePayload c).run := by
  refine .bind (obtainManifest_heeds c 0 (c.attempts - 1)) fun n => ?_
  refine .bind (isInstalled_heeds c n) fun there => ?_
  cases there with
  | false => exact .bind (download_heeds c none 0 c.attempts) fun _ => .pure
  | true => exact .pure

theorem backOff_heeds (crashes : UInt32) (lastCode : Option Int32) :
    Heeds c (backOff c crashes lastCode).run := by
  unfold backOff
  split
  · exact .bind (.fail rfl) fun _ => .pause
  · exact .pause

theorem crashesBefore_heeds (memory : Memory) (n : Manifest) :
    Heeds c (crashesBefore c memory n).run := by
  unfold crashesBefore
  cases memory.isUnchanged n with
  | false => exact .pure
  | true =>
    cases memory.restartRequested with
    | false => exact .pure
    | true => exact .bind (backOff_heeds c _ _) fun _ => .pure

theorem settle_heeds (crashes : UInt32) (checksum : String) (exit : ProcessExit)
    (ranFor : Duration) : Heeds c (settle c crashes checksum (.exited exit ranFor)).run := by
  simp only [settle]
  by_cases asked : exit = .code 0
  · rw [if_pos asked]
    exact .pure
  · rw [if_neg asked]
    exact .bind (backOff_heeds c _ _) fun _ => .pure

end BuildDispatch.Supervisor
