import BuildDispatch.Supervisor.Run
import Mathlib.Data.List.Infix

/-!
The account of a supervisor's launches: what each failure is charged, and the waits that are due.
Lists of launches begin with the latest one.
-/
namespace BuildDispatch.Supervisor

structure Launch where
  checksum : String
  stop : LaunchEnd
  deriving DecidableEq

namespace Launch

/-- Whether the payload ran long enough to make good for the failures before. -/
def isHealthy (c : SupervisorSettings) (l : Launch) : Bool :=
  match l.stop with
  | .exited _ ranFor => c.healthyRun.nanos ≤ ranFor.nanos
  | _ => false

/-- Whether the payload ended otherwise than with a wish for a restart. -/
def isFailure (l : Launch) : Bool :=
  match l.stop with
  | .exited exit _ => exit ≠ .code 0
  | _ => false

def code? (l : Launch) : Option Int32 :=
  match l.stop with
  | .exited exit _ => exit.code?
  | _ => none

end Launch

/-- Whether a launch of a payload with this checksum goes on with the one launched last. -/
def continues (checksum : String) (before : List Launch) : Bool :=
  before.head?.any (·.checksum = checksum)

/--
The failures in a row once the latest launch is charged as one: those before it count unless it
brought another payload or made good for them.
-/
def charged (c : SupervisorSettings) : List Launch → Nat
  | [] => 0
  | l :: before =>
    (if l.isHealthy c || !continues l.checksum before then 0 else charged c before) + 1

/-- What a supervisor does that counts here: launches, and waits before the next launch. -/
inductive Entry where
  | launch (l : Launch)
  | wait (nanos : Nat)
  deriving DecidableEq

def relaunchWait (c : SupervisorSettings) (made : List Launch) : Entry :=
  .wait (c.restartBackoff.nanos * charged c made)

/--
The wait between the launches that were made and the next, of a payload with this checksum: one, if
the latest launch failed, or if it ended with a wish for a restart in vain.
-/
def due (c : SupervisorSettings) (checksum : String) : List Launch → List Entry
  | [] => []
  | l :: before =>
    if l.isFailure || l.checksum = checksum then [relaunchWait c (l :: before)] else []

/-- The wait that is due whatever is launched next. -/
def owed (c : SupervisorSettings) : List Launch → List Entry
  | [] => []
  | l :: before => if l.isFailure then [relaunchWait c (l :: before)] else []

/-- The launches that were made, with the waits that are due between them. -/
def ledger (c : SupervisorSettings) : List Launch → List Entry
  | [] => []
  | l :: before => .launch l :: (due c l.checksum before ++ ledger c before)

def entry? : (Σ β : Type, Action β × β) → Option Entry
  | ⟨_, .launch p, stop⟩ => some (.launch ⟨p.manifest.checksum, stop⟩)
  | ⟨_, .sleep .relaunch time, _⟩ => some (.wait time.nanos)
  | _ => none

def journal (past : Program.Trace Action) : List Entry := past.filterMap entry?

def Entry.launch? : Entry → Option Launch
  | .launch l => some l
  | .wait _ => none

def launches (entries : List Entry) : List Launch := entries.filterMap Entry.launch?

/-- After each wait that was due, the failures were within the budget. -/
def WithinBudget (c : SupervisorSettings) (made : List Launch) : Prop :=
  ∀ l before, l :: before <:+ made → due c l.checksum before ≠ [] →
    charged c before ≤ c.maxRestarts.toNat

variable {c : SupervisorSettings} {l : Launch} {before made : List Launch} {checksum : String}

theorem due_cases (c : SupervisorSettings) (checksum : String) (made : List Launch) :
    due c checksum made = [] ∨ due c checksum made = [relaunchWait c made] := by
  cases made with
  | nil => exact .inl rfl
  | cons l before =>
    simp only [due]
    split_ifs
    · exact .inr rfl
    · exact .inl rfl

theorem due_of_continues (h : continues checksum made = true) :
    due c checksum made = [relaunchWait c made] := by
  cases made with
  | nil => cases h
  | cons l before =>
    have same : l.checksum = checksum := by simpa [continues] using h
    simp [due, same]

theorem due_of_not_continues (h : continues checksum made = false) :
    due c checksum made = owed c made := by
  cases made with
  | nil => rfl
  | cons l before =>
    have other : l.checksum ≠ checksum := by simpa [continues] using h
    simp [due, owed, other]

@[simp] theorem launches_wait_append (made : List Launch) (entries : List Entry) :
    launches (relaunchWait c made :: entries) = launches entries := rfl

@[simp] theorem launches_ledger (c : SupervisorSettings) (made : List Launch) :
    launches (ledger c made) = made := by
  induction made with
  | nil => rfl
  | cons l before ih =>
    change l :: launches (due c l.checksum before ++ ledger c before) = _
    rcases due_cases c l.checksum before with none | wait
    · rw [none, List.nil_append, ih]
    · rw [wait, List.singleton_append, launches_wait_append, ih]

theorem withinBudget_nil : WithinBudget c [] := fun l before suffix => by
  have empty := List.suffix_nil.1 suffix
  cases empty

theorem WithinBudget.cons (h : WithinBudget c before)
    (within : due c l.checksum before ≠ [] → charged c before ≤ c.maxRestarts.toNat) :
    WithinBudget c (l :: before) := by
  intro k earlier suffix
  rcases List.suffix_cons_iff.1 suffix with whole | part
  · cases whole
    exact within
  · exact h k earlier part

/-- Launches of one payload that do not make good are charged one by one. -/
theorem length_le_charged {stretch earlier : List Launch}
    (same : ∀ l ∈ stretch, l.checksum = checksum) (ill : ∀ l ∈ stretch, l.isHealthy c = false) :
    stretch.length ≤ charged c (stretch ++ earlier) := by
  induction stretch with
  | nil => exact Nat.zero_le _
  | cons l rest ih =>
    have counted := ih (fun k hk => same k (.tail _ hk)) fun k hk => ill k (.tail _ hk)
    cases rest with
    | nil => exact Nat.succ_le_succ (Nat.zero_le _)
    | cons k rest =>
      have continued : continues l.checksum (k :: rest ++ earlier) = true := by
        simp [continues, same]
      change rest.length + 2 ≤ (if l.isHealthy c || !continues l.checksum (k :: rest ++ earlier)
        then 0 else charged c (k :: rest ++ earlier)) + 1
      rw [ill l (.head _), continued]
      exact Nat.succ_le_succ counted

/-- Launches of one payload, of which all but the latest do not make good, are within the budget. -/
theorem WithinBudget.length_le (h : WithinBudget c made) {stretch : List Launch}
    (part : stretch <:+: made) (same : ∀ l ∈ stretch, ∀ k ∈ stretch, l.checksum = k.checksum)
    (ill : ∀ l ∈ stretch.tail, l.isHealthy c = false) :
    stretch.length ≤ c.maxRestarts.toNat + 1 := by
  obtain ⟨later, earlier, whole⟩ := part
  cases stretch with
  | nil => exact Nat.zero_le _
  | cons l rest =>
    cases rest with
    | nil => exact Nat.succ_le_succ (Nat.zero_le _)
    | cons k rest =>
      have suffix : l :: (k :: rest ++ earlier) <:+ made := ⟨later, by simpa using whole⟩
      have continued : continues l.checksum (k :: rest ++ earlier) = true := by
        simp [continues, same k (by simp) l (by simp)]
      have within := h l _ suffix (by rw [due_of_continues continued]; exact List.cons_ne_nil _ _)
      have counted : (k :: rest).length ≤ charged c (k :: rest ++ earlier) :=
        length_le_charged (fun i hi => same i (.tail _ hi) l (.head _)) ill
      exact Nat.succ_le_succ (counted.trans within)

end BuildDispatch.Supervisor
