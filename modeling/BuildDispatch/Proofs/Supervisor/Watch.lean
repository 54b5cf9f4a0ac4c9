import BuildDispatch.Proofs.Program
import BuildDispatch.Supervisor.Round

/-!
Supervision as rounds, each of which comes to a launch and to what follows its end, unless it ends
all supervision (`watch_succ_eq`).
-/
namespace BuildDispatch.Supervisor

variable {α β γ : Type}

/-- A part of supervision and what follows it, be it that the part ends all supervision or not. -/
theorem run_bind (x : Supervision α) (f : α → Supervision β)
    (k : Except Ending β → Program Action γ) :
    (x >>= f).run.bind k = x.run.bind fun r =>
      match r with
      | .ok a => (f a).run.bind k
      | .error e => k (.error e) := by
  refine (Program.bind_assoc x.run (ExceptT.bindCont f) k).trans (congrArg x.run.bind ?_)
  funext r
  cases r <;> rfl

variable (c : SupervisorSettings)

def closing : Option Ending → Program Action (Option Ending)
  | none => return none
  | some .aborted => return some .aborted
  | some ending => do
    Program.ask .release
    return some ending

/-- Supervision from what is remembered on, for so many rounds at most. -/
def watch (left : Nat) (memory : Memory) : Program Action (Option Ending) :=
  (Program.rounds (step c) left memory).bind closing

def resume (left : Nat) : Except Ending Memory → Program Action (Option Ending)
  | .ok memory => watch c left memory
  | .error e => closing (some e)

/-- What follows the end of a launch, with so many crashes before it. -/
def afterLaunch (crashes : UInt32) (checksum : String) (left : Nat) (stop : LaunchEnd) :
    Program Action (Option Ending) :=
  (settle c crashes checksum stop).run.bind (resume c left)

theorem watch_succ (left : Nat) (memory : Memory) :
    watch c (left + 1) memory = (round c memory).run.bind (resume c left) := by
  unfold watch
  rw [Program.rounds]
  refine (Program.bind_assoc (step c memory) _ closing).trans ?_
  refine (Program.bind_assoc (round c memory).run _ _).trans (congrArg (round c memory).run.bind ?_)
  funext r
  cases r <;> rfl

/-- Before a launch the payload is obtained, what it costs is settled, and the lock is checked. -/
theorem watch_succ_eq (left : Nat) (memory : Memory) :
    watch c (left + 1) memory = (ensurePayload c).run.bind fun obtained =>
      match obtained with
      | .error e => closing (some e)
      | .ok payload => (crashesBefore c memory payload.manifest).run.bind fun settled =>
        match settled with
        | .error e => closing (some e)
        | .ok crashes => .act .isOwner fun owner =>
          if owner then
            .act (.launch payload) (afterLaunch c crashes payload.manifest.checksum left)
          else closing (some (.failed (.lockLost c.lockPath))) := by
  rw [watch_succ]
  unfold round
  rw [run_bind]
  congr 1
  funext obtained
  cases obtained with
  | error e => rfl
  | ok payload =>
    dsimp only
    rw [run_bind]
    congr 1
    funext settled
    cases settled with
    | error e => rfl
    | ok crashes =>
      refine congrArg (Program.act Action.isOwner) (funext fun owner => ?_)
      cases owner with
      | false => rfl
      | true => rfl

/-- An agent that asked for a restart is charged no crash yet; that depends on what is published. -/
theorem afterLaunch_restart (crashes : UInt32) (checksum : String) (left : Nat)
    (ranFor : Duration) : afterLaunch c crashes checksum left (.exited (.code 0) ranFor) =
      watch c left
        ⟨if c.healthyRun.nanos ≤ ranFor.nanos then 0 else crashes, some checksum, true⟩ := by
  unfold afterLaunch
  simp only [settle, if_true]
  rfl

theorem supervise_eq (most : Nat) : supervise c most = .act .acquire fun owner =>
    if owner then watch c most .start
    else .done (some (.failed (.alreadyRunning c.lockPath))) := by
  refine congrArg (Program.act Action.acquire) (funext fun owner => ?_)
  cases owner with
  | false => rfl
  | true =>
    refine congrArg (Program.rounds (step c) most .start).bind (funext fun ending => ?_)
    rcases ending with _ | ending
    · rfl
    · cases ending <;> rfl

end BuildDispatch.Supervisor
