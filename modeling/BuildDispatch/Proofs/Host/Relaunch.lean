import BuildDispatch.Host
import BuildDispatch.Proofs.Supervisor.Resume

/-!
How a supervisor comes to the next launch when another payload is published than the one that it
launched last. If all goes well it launches the published one, and neither waits for that nor
charges a crash (`Host.relaunches_watch`).
-/
namespace BuildDispatch

namespace Supervisor

/-- An action goes well: a download succeeds, the lock is kept, and nothing is broken off. -/
def GoesWell : {β : Type} → Action β → β → Prop
  | _, .acquire, owner | _, .isOwner, owner => owner = true
  | _, .manifest, answer => ∃ m, answer = some (.ok m)
  | _, .fetch, answer => ∃ m, answer = some (.ok m)
  | _, .fileLength _, answer => answer ≠ none
  | _, .read _, answer => answer ≠ none
  | _, .makeDirectory _, made => made = some (.ok ())
  | _, .write .., written => written = some (.ok ())
  | _, .makeExecutable _, made => made = some (.ok ())
  | _, .rename .., renamed => renamed = some (.ok ())
  | _, .sleep .., slept => slept = some ()
  | _, .release, _ | _, .launch _, _ => True

def Action.isInquiry {α : Type} : Action α → Bool
  | .manifest | .fetch => true
  | _ => false

/-- All goes well while this is published. -/
def Smooth (wanted : Publication) : Program.Rule Action Disk :=
  fun β d x b d' => Step β d x b d' ∧ GoesWell x b ∧ wanted.Tells x b

/-- Without a launch, a wait before one or an end, a part of supervision comes to its value. -/
abbrev Attains {α : Type} (wanted : Publication) (post : Moment Disk → α → Prop) :
    Supervision α → Moment Disk → Prop :=
  Holds (Smooth wanted) (fun _ _ x => x.isAside = true) (fun _ _ => False) post

variable {c : SupervisorSettings} {wanted : Publication} {m : Moment Disk}

theorem askManifest_attains : Attains wanted (fun _ r => r = .ok wanted.manifest)
    (await .manifest) m := by
  refine .await rfl (fun r t step => ?_) fun t step => ?_
  · obtain ⟨-, ⟨n, answered⟩, told⟩ := step
    cases answered
    exact congrArg Except.ok told
  · obtain ⟨-, ⟨n, answered⟩, -⟩ := step
    cases answered

theorem obtainManifest_attains (left : Nat) :
    Attains wanted (fun _ n => n = wanted.manifest) (obtainManifest c 0 left) m := by
  cases left with
  | zero =>
    refine .bind (askManifest_attains.mono ?_)
    rintro m _ rfl
    exact rfl
  | succ left =>
    refine .bind (askManifest_attains.mono ?_)
    rintro m _ rfl
    exact rfl

theorem isInstalled_attains : Attains wanted
    (fun m there => there = true → Placed c m wanted.manifest) (isInstalled c wanted.manifest)
    m := by
  refine .bind (.await rfl (fun length t _ => ?_) fun t step => step.2.1 rfl)
  by_cases same : length = some wanted.manifest.length
  · rw [if_neg fun differs => differs same]
    refine .bind (.await rfl (fun content t step => ?_) fun t step => step.2.1 rfl)
    cases content with
    | none => exact .pure nofun
    | some payload =>
      obtain ⟨rfl, there⟩ := step.1
      exact .pure fun verified => ⟨payload, there payload rfl, verified⟩
  · rw [if_pos same]
    exact .pure nofun

theorem Installing.done {x : Action (Option (Except String Unit))} (h : Installing x)
    {r : Option (Except String Unit)} (well : GoesWell x r) : r = some (.ok ()) := by
  cases h <;> exact well

theorem install_attains (payload : Bytes) : Attains wanted
    (fun m _ => m.state c.payloadPath = some payload) (install c payload) m := by
  refine (install_puts (fun step => step.1) (fun m x post installing leads => ?_) payload m).mono
    fun m _ h => h.2
  refine .installStep ?_ leads fun r d undone step => ?_
  · cases installing <;> rfl
  · exact absurd (installing.done step.2.1) undone

theorem fetchOnce_attains (made : Nat) : Attains wanted
    (fun m r => r = .installed wanted.manifest ∧ Placed c m wanted.manifest) (fetchOnce c made)
    m := by
  refine .bind (.await rfl (fun r t step => ?_) fun t step => ?_)
  · obtain ⟨-, ⟨⟨n, payload⟩, answered⟩, told⟩ := step
    cases answered
    obtain ⟨rfl, rfl⟩ := told
    have verified : wanted.manifest.verifies wanted.payload = true := Manifest.verifies_describe _ _
    dsimp only
    rw [verified]
    refine .bind ((install_attains wanted.payload).mono ?_)
    exact fun m _ there => .pure ⟨rfl, wanted.payload, there, verified⟩
  · obtain ⟨-, ⟨n, answered⟩, -⟩ := step
    cases answered

theorem download_attains {attempts : Nat} (some : 0 < attempts) : Attains wanted
    (fun m n => n = wanted.manifest ∧ Placed c m wanted.manifest) (download c none 0 attempts)
    m := by
  obtain ⟨left, rfl⟩ := Nat.exists_eq_add_one.2 some
  refine .bind ((fetchOnce_attains 0).mono ?_)
  rintro m _ ⟨rfl, there⟩
  exact .pure ⟨rfl, there⟩

theorem ensurePayload_attains : Attains wanted
    (fun m p => p = ⟨c.payloadPath, wanted.manifest⟩ ∧ Placed c m wanted.manifest)
    (ensurePayload c) m := by
  refine .bind ((obtainManifest_attains (c.attempts - 1)).mono ?_)
  rintro m _ rfl
  refine .bind (isInstalled_attains.mono ?_)
  rintro m (_ | _) there
  · refine .bind ((download_attains c.attempts_pos).mono ?_)
    rintro m _ ⟨rfl, there⟩
    exact .pure ⟨rfl, there⟩
  · exact .pure ⟨rfl, there rfl⟩

/-- A payload other than the one launched last starts without crashes, and without a wait. -/
theorem crashesBefore_of_changed {memory : Memory} {n : Manifest}
    (changed : memory.lastChecksum ≠ some n.checksum) : crashesBefore c memory n = pure 0 := by
  have unchanged : memory.isUnchanged n = false := decide_eq_false changed
  unfold crashesBefore
  rw [unchanged]
  rfl

end Supervisor

namespace Publication

theorem tells_of_isInquiry_eq_false (p : Publication) {β : Type} {x : Supervisor.Action β}
    (other : x.isInquiry = false) (b : β) : p.Tells x b := by
  cases x with
  | manifest | fetch => cases other
  | _ => trivial

end Publication

namespace Host

open Supervisor (Attains Disk GoesWell Placed Supervision afterLaunch)

/--
A supervisor comes to launch what is wanted, with no crash charged and no wait before it, if all
goes well and that is published whenever it asks.
-/
inductive Relaunches (c : HostSettings) (wanted : Publication) : Host → Prop where
  | launch {published : Publication} {m : Supervisor.Moment Disk} {left : Nat}
    (there : Placed c.supervisor m wanted.manifest) :
    Relaunches c wanted ⟨published, m.state, .watching (.act
      (.launch ⟨c.supervisor.payloadPath, wanted.manifest⟩)
      (afterLaunch c.supervisor 0 wanted.manifest.checksum left))⟩
  | aside {published : Publication} {disk : Disk} {β : Type} {x : Supervisor.Action β}
    {next : β → Watch} (away : x.isAside = true)
    (later : ∀ b published' disk', Supervisor.Step β disk x b disk' → published.Tells x b →
      GoesWell x b → (x.isInquiry = true → published = wanted) →
      Relaunches c wanted ⟨published', disk', .watching (next b)⟩) :
    Relaunches c wanted ⟨published, disk, .watching (.act x next)⟩

variable {c : HostSettings} {wanted : Publication}

/-- What goes well comes to its value on the way to the launch. -/
theorem relaunches_bind {α : Type} {post : Supervisor.Moment Disk → α → Prop}
    {x : Supervision α} {k : Except Supervisor.Ending α → Watch} {m : Supervisor.Moment Disk}
    (h : Attains wanted post x m) (rest : ∀ m a published, post m a →
      Relaunches c wanted ⟨published, m.state, .watching (k (.ok a))⟩) (published : Publication) :
    Relaunches c wanted ⟨published, m.state, .watching (x.run.bind k)⟩ := by
  unfold Attains Supervisor.Holds at h
  generalize x.run = p at h
  induction p generalizing m published with
  | done r =>
    cases r with
    | error e => exact h.elim
    | ok a => exact rest m a published h
  | act y next ih =>
    obtain ⟨away, later⟩ := h
    refine .aside away fun b published' disk' step told well same => ?_
    refine ih b published' (m := m.after y b disk') (later b disk' ⟨step, well, ?_⟩)
    cases inquiry : y.isInquiry with
    | true => exact same inquiry ▸ told
    | false => exact wanted.tells_of_isInquiry_eq_false inquiry b

/-- With another payload launched last, a supervisor comes to launch the published one. -/
theorem relaunches_watch {memory : Supervisor.Memory}
    (changed : memory.lastChecksum ≠ some wanted.manifest.checksum) (left : Nat)
    (published : Publication) (disk : Disk) :
    Relaunches c wanted
      ⟨published, disk, .watching (Supervisor.watch c.supervisor (left + 1) memory)⟩ := by
  rw [Supervisor.watch_succ_eq]
  refine relaunches_bind (m := ⟨[], disk⟩) Supervisor.ensurePayload_attains ?_ published
  rintro m _ published ⟨rfl, there⟩
  dsimp only
  rw [Supervisor.crashesBefore_of_changed changed]
  refine .aside rfl fun owner published' disk' step _ owned _ => ?_
  obtain rfl : owner = true := owned
  obtain rfl : disk' = m.state := step
  exact .launch there

end Host

end BuildDispatch
