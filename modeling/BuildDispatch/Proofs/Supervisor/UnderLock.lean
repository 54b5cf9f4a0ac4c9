import BuildDispatch.Proofs.Supervisor.Launch
import BuildDispatch.Proofs.Supervisor.Wait

/-!
A supervisor acts only under its lock, asks for it right before each launch, and gives it up once,
at the very end (`acts_under_lock`).
-/
namespace BuildDispatch.Supervisor

open Program (Rule Safe Trace)

def Action.isLocking {β : Type} : Action β → Bool
  | .acquire | .release => true
  | _ => false

def Action.isRelease {β : Type} : Action β → Bool
  | .release => true
  | _ => false

/-- The lock was taken at first, and nothing since gave it up or cut supervision short. -/
def Held (c : SupervisorSettings) (past : Trace Action) : Prop :=
  ∃ since, past = since ++ [⟨Bool, .acquire, true⟩] ∧
    ∀ event ∈ since, event.2.1.isLocking = false ∧ cut? c event = none

/-- Supervision ends under the lock: of its own, or because the latest answer cut it short. -/
inductive Closes (c : SupervisorSettings) : Trace Action → Ending → Prop where
  | own {past : Trace Action} {e : Ending} (held : Held c past) (own : e.isOwn = true) :
      Closes c past e
  | cut {past : Trace Action} {event : Σ β : Type, Action β × β} {e : Ending} (held : Held c past)
      (cut : cut? c event = some e) : Closes c (event :: past) e

/-- What happened by the time supervision ended. -/
inductive Ended (c : SupervisorSettings) : Trace Action → Ending → Prop where
  | refused : Ended c [⟨Bool, .acquire, false⟩] (.failed (.alreadyRunning c.lockPath))
  | aborted {past : Trace Action} (closes : Closes c past .aborted) : Ended c past .aborted
  | released {past : Trace Action} {e : Ending} (closes : Closes c past e) (whole : e ≠ .aborted) :
      Ended c (⟨Unit, .release, ()⟩ :: past) e

/--
A payload is about to be launched: in one and the same round it was ensured, whatever back-off was
due was waited out, and then the lock was found to be owned. Between these nothing was launched.
-/
def Cleared {σ : Type} (rule : Rule Action σ) (c : SupervisorSettings) (p : InstalledPayload)
    (m : Moment σ) : Prop :=
  ∃ first ensured waited memory crashes since t,
    Program.Reaches rule first (ensurePayload c).run ensured (.done (.ok p)) ∧
    Program.Reaches rule ensured (crashesBefore c memory p.manifest).run waited
      (.done (.ok crashes)) ∧
    waited.past = since ++ first.past ∧ (∀ event ∈ since, event.2.1.isWait = true) ∧
    m = waited.after .isOwner true t

/-- What is known when an action is taken. -/
def Lawful {σ : Type} (rule : Rule Action σ) (c : SupervisorSettings) (m : Moment σ) :
    (β : Type) → Action β → Prop
  | _, .acquire => m.past = []
  | _, .release => ∃ e, Closes c m.past e
  | _, .launch p => Held c m.past ∧ Cleared rule c p m
  | _, _ => Held c m.past

section

variable {σ α β : Type} {rule : Rule Action σ} {c : SupervisorSettings} {m : Moment σ}
  {past : Trace Action} {event : Σ β : Type, Action β × β} {e : Ending}

theorem release_ne_acquire (taken : Bool) :
    (⟨Unit, .release, ()⟩ : Σ β : Type, Action β × β) ≠ ⟨Bool, .acquire, taken⟩ :=
  fun same => Bool.noConfusion (congrArg (fun event => event.2.1.isRelease) same)

theorem held_acquire : Held c [⟨Bool, .acquire, true⟩] := ⟨[], rfl, nofun⟩

theorem Held.cons (held : Held c past) (unlocking : event.2.1.isLocking = false)
    (uncut : cut? c event = none) : Held c (event :: past) := by
  obtain ⟨since, rfl, steady⟩ := held
  refine ⟨event :: since, rfl, fun other h => ?_⟩
  rcases List.mem_cons.1 h with rfl | earlier
  · exact ⟨unlocking, uncut⟩
  · exact steady other earlier

theorem Held.mem (held : Held c past) (h : event ∈ past) :
    event = ⟨Bool, .acquire, true⟩ ∨ event.2.1.isLocking = false ∧ cut? c event = none := by
  obtain ⟨since, rfl, steady⟩ := held
  rcases List.mem_append.1 h with later | first
  · exact .inr (steady event later)
  · exact .inl (List.mem_singleton.1 first)

theorem Held.acquired (held : Held c past) : ⟨Bool, .acquire, true⟩ ∈ past := by
  obtain ⟨since, rfl, -⟩ := held
  exact List.mem_append_right _ (.head _)

theorem Held.uncut (held : Held c past) (h : event ∈ past) : cut? c event = none := by
  rcases held.mem h with rfl | ⟨-, uncut⟩
  · rfl
  · exact uncut

theorem Held.not_refused (held : Held c past) : ⟨Bool, .acquire, false⟩ ∉ past := by
  intro refused
  rcases held.mem refused with same | ⟨unlocking, -⟩
  · cases same
  · cases unlocking

theorem Held.not_released (held : Held c past) : ⟨Unit, .release, ()⟩ ∉ past := by
  intro released
  rcases held.mem released with same | ⟨unlocking, -⟩
  · exact release_ne_acquire true same
  · cases unlocking

theorem Closes.acquired (closes : Closes c past e) : ⟨Bool, .acquire, true⟩ ∈ past := by
  cases closes with
  | own held => exact held.acquired
  | cut held => exact .tail _ held.acquired

theorem Closes.not_refused (closes : Closes c past e) : ⟨Bool, .acquire, false⟩ ∉ past := by
  intro refused
  cases closes with
  | own held => exact held.not_refused refused
  | cut held cut =>
    cases refused with
    | head => cases cut
    | tail _ refused => exact held.not_refused refused

theorem Closes.not_released (closes : Closes c past e) : ⟨Unit, .release, ()⟩ ∉ past := by
  intro released
  cases closes with
  | own held => exact held.not_released released
  | cut held cut =>
    cases released with
    | head => cases cut
    | tail _ released => exact held.not_released released

theorem cut?_ne_aborted (cut : cut? c event = some e) : e ≠ .aborted := by
  rintro rfl
  obtain ⟨β, x, b⟩ := event
  cases x <;> cases b <;> cases cut

/-- Only the latest answer can have cut supervision short, and then it ends so. -/
theorem Closes.of_cut (closes : Closes c past e) (h : event ∈ past) {e' : Ending}
    (cut : cut? c event = some e') : ∃ before, past = event :: before ∧ e = e' := by
  cases closes with
  | own held =>
    rw [held.uncut h] at cut
    cases cut
  | @cut before latest _ held ended =>
    rcases List.mem_cons.1 h with rfl | earlier
    · exact ⟨before, rfl, Option.some.inj (ended.symm.trans cut)⟩
    · rw [held.uncut earlier] at cut
      cases cut

/-- What heeds the answers that cut supervision short keeps the lock while it goes on. -/
theorem Heeds.holds {x : Supervision α} (h : Heeds c x.run) (held : Held c m.past) :
    Holds rule (Lawful rule c) (fun m' e => Closes c m'.past e)
      (fun m' _ => Held c m'.past ∧ ∃ since, m'.past = since ++ m.past ∧
        ∀ event ∈ since, event.2.1.isWait = true) x m := by
  suffices H : ∀ m' : Moment σ, Held c m'.past → (∃ since, m'.past = since ++ m.past ∧
      ∀ event ∈ since, event.2.1.isWait = true) → Holds rule _ _ _ x m' from
    H m held ⟨[], rfl, nofun⟩
  unfold Holds
  generalize x.run = p at h
  induction p with
  | done r =>
    intro m' held since
    cases r with
    | ok a => exact ⟨held, since⟩
    | error e => exact .own held h
  | act y next ih =>
    rintro m' held ⟨since, past, waits⟩
    obtain ⟨wait, later⟩ := h
    refine ⟨?_, fun b t _ => ?_⟩
    · cases y <;> first | exact held | cases wait
    · have unlocking : y.isLocking = false := by cases y <;> first | rfl | cases wait
      cases cut : cut? c ⟨_, y, b⟩ with
      | none =>
        refine ih b ((later b).1 cut) _ (held.cons unlocking cut) ⟨⟨_, y, b⟩ :: since, ?_, ?_⟩
        · exact congrArg _ past
        · intro event h
          rcases List.mem_cons.1 h with rfl | earlier
          · exact wait
          · exact waits event earlier
      | some e =>
        rw [(later b).2 e cut]
        exact .cut held cut

theorem settle_holds {p : InstalledPayload} (crashes : UInt32) (held : Held c m.past)
    (cleared : Cleared rule c p m) :
    Holds rule (Lawful rule c) (fun m e => Closes c m.past e) (fun m _ => Held c m.past)
      (do settle c crashes p.manifest.checksum (← ask (.launch p))) m := by
  refine .bind (.ask ⟨held, cleared⟩ fun stop t _ => ?_)
  cases stop with
  | exited exit ranFor =>
    refine (Heeds.holds (settle_heeds c crashes _ exit ranFor) ?_).mono fun _ _ h => h.1
    exact held.cons rfl rfl
  | shutDown => exact .throw (.cut held rfl)
  | lockLost => exact .fail (.cut held rfl)

theorem round_holds (memory : Memory) (held : Held c m.past) :
    Holds rule (Lawful rule c) (fun m e => Closes c m.past e) (fun m _ => Held c m.past)
      (round c memory) m := by
  refine .bind ((Heeds.holds (ensurePayload_heeds c) held).reaching.mono ?_)
  rintro ensured p ⟨⟨held, since, extended, waits⟩, payload⟩
  refine .bind ((Heeds.holds (crashesBefore_heeds c memory p.manifest) held).reaching.mono ?_)
  rintro waited crashes ⟨⟨held, later, extended', waits'⟩, wait⟩
  refine .bind (.ask held fun owner t _ => ?_)
  cases owner with
  | false => exact .bind (.fail (.cut held rfl))
  | true =>
    refine settle_holds crashes (held.cons rfl rfl)
      ⟨m, ensured, waited, memory, crashes, later ++ since, t, payload, wait, ?_, ?_, rfl⟩
    · rw [extended', extended, List.append_assoc]
    · intro event h
      rcases List.mem_append.1 h with late | early
      · exact waits' event late
      · exact waits event early

theorem supervise_lawful (most : Nat) (s : σ) :
    Safe rule (Lawful rule c)
      (fun m r =>
        match r with
        | none => Held c m.past
        | some e => Ended c m.past e)
      (supervise c most) ⟨[], s⟩ := by
  refine .bind (.ask rfl fun acquired t _ => ?_)
  cases acquired with
  | false => exact .refused
  | true =>
    have step (memory : Memory) (m : Moment σ) (held : Held c m.past) :
        Safe rule (Lawful rule c) (fun m => Program.Round.Meets (fun _ => Held c m.past)
          (Closes c m.past)) (step c memory) m := by
      refine .bind (Safe.mono (round_holds memory held) (fun _ _ _ here => here) ?_)
      rintro m (ending | memory) h
      · exact h
      · exact h
    have rounds := Safe.rounds step most (s := Memory.start)
      (m := Program.Moment.after ⟨[], s⟩ .acquire true t) held_acquire
    refine .bind (rounds.mono (fun _ _ _ here => here) ?_)
    rintro m (_ | ending) h
    · obtain ⟨-, held⟩ := h
      exact held
    · cases ending with
      | aborted => exact .aborted h
      | shutDown => exact .bind (.ask ⟨.shutDown, h⟩ fun _ t _ => .released h nofun)
      | failed e => exact .bind (.ask ⟨.failed e, h⟩ fun _ t _ => .released h nofun)

variable {most : Nat} {s : σ} {rest : Program Action (Option Ending)}

/-- At every moment: about to take the lock, under it, about to give it up, or at the end. -/
theorem standing (reached : Program.Reaches rule ⟨[], s⟩ (supervise c most) m rest) :
    m.past = [] ∧ (∀ e, rest ≠ .done (some e)) ∨
    Held c m.past ∧ (∀ e, rest ≠ .done (some e)) ∨
    (∃ e next, rest = .act .release next ∧ Closes c m.past e) ∨
    ∃ e, rest = .done (some e) ∧ Ended c m.past e := by
  have safe := (supervise_lawful most s).reached reached
  cases rest with
  | done r =>
    cases r with
    | none => exact .inr (.inl ⟨safe, nofun⟩)
    | some e => exact .inr (.inr (.inr ⟨e, rfl, safe⟩))
  | act x next =>
    obtain ⟨here, -⟩ := safe
    cases x with
    | acquire => exact .inl ⟨here, nofun⟩
    | release =>
      obtain ⟨e, closes⟩ := here
      exact .inr (.inr (.inl ⟨e, next, rfl, closes⟩))
    | launch p => exact .inr (.inl ⟨here.1, nofun⟩)
    | _ => exact .inr (.inl ⟨here, nofun⟩)

theorem launch_lawful {p : InstalledPayload} {next : LaunchEnd → Program Action (Option Ending)}
    (reached : Program.Reaches rule ⟨[], s⟩ (supervise c most) m (.act (.launch p) next)) :
    Held c m.past ∧ Cleared rule c p m :=
  ((supervise_lawful most s).reached reached).1

theorem refused_alone (reached : Program.Reaches rule ⟨[], s⟩ (supervise c most) m rest)
    (refused : ⟨Bool, .acquire, false⟩ ∈ m.past) : m.past = [⟨Bool, .acquire, false⟩] ∧
      rest = .done (some (.failed (.alreadyRunning c.lockPath))) := by
  rcases standing reached with ⟨none, -⟩ | ⟨held, -⟩ | ⟨e, next, rfl, closes⟩ | ⟨e, rfl, ended⟩
  · rw [none] at refused
    cases refused
  · exact absurd refused held.not_refused
  · exact absurd refused closes.not_refused
  · generalize m.past = past at ended refused
    cases ended with
    | refused => exact ⟨rfl, rfl⟩
    | aborted closes => exact absurd refused closes.not_refused
    | released closes =>
      rcases List.mem_cons.1 refused with same | refused
      · exact absurd same.symm (release_ne_acquire false)
      · exact absurd refused closes.not_refused

/-- An answer that cuts supervision short is followed by the release, which is the last. -/
theorem released_of_cut (reached : Program.Reaches rule ⟨[], s⟩ (supervise c most) m rest)
    (h : event ∈ m.past) (cut : cut? c event = some e) :
    (∃ before next, m.past = event :: before ∧ rest = .act .release next) ∨
    ∃ before, m.past = ⟨Unit, .release, ()⟩ :: event :: before ∧ rest = .done (some e) := by
  rcases standing reached with ⟨none, -⟩ | ⟨held, -⟩ | ⟨e', next, rfl, closes⟩ | ⟨e', rfl, ended⟩
  · rw [none] at h
    cases h
  · rw [held.uncut h] at cut
    cases cut
  · obtain ⟨before, past, -⟩ := closes.of_cut h cut
    exact .inl ⟨before, next, past, rfl⟩
  · generalize m.past = past at ended h
    cases ended with
    | refused =>
      rw [List.mem_singleton.1 h] at cut
      cases cut
    | aborted closes =>
      obtain ⟨before, -, rfl⟩ := closes.of_cut h cut
      exact absurd rfl (cut?_ne_aborted cut)
    | released closes =>
      cases h with
      | head => cases cut
      | tail _ h =>
        obtain ⟨before, rfl, rfl⟩ := closes.of_cut h cut
        exact .inr ⟨before, rfl, rfl⟩

/-- The lock is given up by the last action of all. -/
theorem released_last (reached : Program.Reaches rule ⟨[], s⟩ (supervise c most) m rest)
    (released : ⟨Unit, .release, ()⟩ ∈ m.past) :
    ∃ before ending, m.past = ⟨Unit, .release, ()⟩ :: before ∧
      ⟨Bool, .acquire, true⟩ ∈ before ∧ ⟨Unit, .release, ()⟩ ∉ before ∧
      rest = .done (some ending) := by
  rcases standing reached with ⟨none, -⟩ | ⟨held, -⟩ | ⟨e, next, rfl, closes⟩ | ⟨e, rfl, ended⟩
  · rw [none] at released
    cases released
  · exact absurd released held.not_released
  · exact absurd released closes.not_released
  · generalize m.past = past at ended released
    cases ended with
    | refused => exact absurd (List.mem_singleton.1 released) (release_ne_acquire false)
    | aborted closes => exact absurd released closes.not_released
    | @released past _ closes => exact ⟨past, e, rfl, closes.acquired, closes.not_released, rfl⟩

theorem released_of_returns
    (reached : Program.Reaches rule ⟨[], s⟩ (supervise c most) m (.done (some e)))
    (acquired : ⟨Bool, .acquire, true⟩ ∈ m.past) (whole : e ≠ .aborted) :
    ⟨Unit, .release, ()⟩ ∈ m.past := by
  have ended : Ended c m.past e := (supervise_lawful most s).reached reached
  generalize m.past = past at ended acquired
  cases ended with
  | refused => cases List.mem_singleton.1 acquired
  | aborted => exact absurd rfl whole
  | released => exact .head _

end

/--
Whatever is answered, at every moment of supervision. A refused lock is all that happens. A launch
is made under the lock alone, and right after it was found to be owned, in a round that ensured the
payload and waited out the back-off before that. An answer that cuts supervision short, as a lost
lock does, is followed by nothing but the release, and then supervision ends with it. The lock is
given up once, by the last action of all, and however supervision returns, it was.
-/
theorem acts_under_lock {σ : Type} {rule : Rule Action σ} {c : SupervisorSettings} {most : Nat}
    {s : σ} {m : Moment σ} {rest : Program Action (Option Ending)}
    (reached : Program.Reaches rule ⟨[], s⟩ (supervise c most) m rest) :
    (⟨Bool, .acquire, false⟩ ∈ m.past → m.past = [⟨Bool, .acquire, false⟩] ∧
      rest = .done (some (.failed (.alreadyRunning c.lockPath)))) ∧
    (∀ p next, rest = .act (.launch p) next →
      ⟨Bool, .acquire, true⟩ ∈ m.past ∧ ⟨Unit, .release, ()⟩ ∉ m.past ∧ Cleared rule c p m) ∧
    (∀ event ∈ m.past, ∀ ending, cut? c event = some ending →
      (∃ before next, m.past = event :: before ∧ rest = .act .release next) ∨
      ∃ before, m.past = ⟨Unit, .release, ()⟩ :: event :: before ∧ rest = .done (some ending)) ∧
    (⟨Unit, .release, ()⟩ ∈ m.past → ∃ before ending, m.past = ⟨Unit, .release, ()⟩ :: before ∧
      ⟨Bool, .acquire, true⟩ ∈ before ∧ ⟨Unit, .release, ()⟩ ∉ before ∧
      rest = .done (some ending)) ∧
    (∀ ending, rest = .done (some ending) → ⟨Bool, .acquire, true⟩ ∈ m.past →
      ending ≠ .aborted → ⟨Unit, .release, ()⟩ ∈ m.past) := by
  refine ⟨refused_alone reached, ?_, fun _ h _ cut => released_of_cut reached h cut,
    released_last reached, ?_⟩
  · rintro p next rfl
    obtain ⟨held, cleared⟩ := launch_lawful reached
    exact ⟨held.acquired, held.not_released, cleared⟩
  · rintro ending rfl acquired whole
    exact released_of_returns reached acquired whole

/-- A lock that is lost while an agent runs is given up nevertheless. -/
theorem acts_under_lock_lost :
    let c : SupervisorSettings := ⟨"lock", "payload", 5, .ofSecs 2, .ofSecs 600, 5, .ofSecs 2⟩
    let disk : Disk := fun path => if path = "payload" then some [1, 2, 3] else none
    ∃ m : Moment Disk, Reaches disk (supervise c 1) m (.done (some (.failed (.lockLost "lock")))) ∧
      ⟨Unit, .release, ()⟩ ∈ m.past := by
  intro c disk
  have there : disk c.payloadPath = some [1, 2, 3] := rfl
  have run := supervise_reaches_launch there (Manifest.verifies_describe "v1" [1, 2, 3]) 0
  have lost : Reaches disk (supervise c 1) _ _ := .act (b := LaunchEnd.lockLost) run rfl
  have reached : Reaches disk (supervise c 1) _ (.done (some (.failed (.lockLost "lock")))) :=
    .act (b := ()) lost rfl
  obtain ⟨-, -, -, -, released⟩ := acts_under_lock reached
  have held := (launch_lawful run).1.acquired
  exact ⟨_, reached, released _ rfl (.tail _ (.tail _ held)) nofun⟩

end BuildDispatch.Supervisor
