import BuildDispatch.Proofs.Path
import BuildDispatch.Proofs.Supervisor.Launch
import BuildDispatch.Proofs.Supervisor.Offer

/-!
What a supervisor launches is what its manifest describes, and the payload's file never holds
anything but what it held at first or a whole download (`launches_verified`).
-/
namespace BuildDispatch.Supervisor

/-- The payload's file holds what it held at first, or a download that its manifest describes. -/
def Sound (c : SupervisorSettings) (first : Option Bytes) (m : Moment Disk) : Prop :=
  m.state c.payloadPath = first ∨ ∃ n payload, Fetches m.past n payload ∧
    n.verifies payload = true ∧ m.state c.payloadPath = some payload

/-- The payload's file holds what a manifest describes. -/
def Placed (c : SupervisorSettings) (m : Moment Disk) (n : Manifest) : Prop :=
  ∃ payload, m.state c.payloadPath = some payload ∧ n.verifies payload = true

/-- A payload may be launched: it is in its place, and its manifest is the one offered last. -/
def Ready (c : SupervisorSettings) (m : Moment Disk) (p : InstalledPayload) : Prop :=
  p.path = c.payloadPath ∧ offer? m.past = some p.manifest ∧ Placed c m p.manifest

/-- The payload's file is sound, and a launch is of one that is ready. -/
def Fine (c : SupervisorSettings) (first : Option Bytes) (m : Moment Disk) :
    (β : Type) → Action β → Prop
  | _, .launch p => Sound c first m ∧ Ready c m p
  | _, _ => Sound c first m

/-- A part of supervision keeps the payload's file sound, however it ends. -/
abbrev Soundly {α : Type} (c : SupervisorSettings) (first : Option Bytes) :
    (Moment Disk → α → Prop) → Supervision α → Moment Disk → Prop :=
  Holds Step (Fine c first) fun m _ => Sound c first m

section

variable {c : SupervisorSettings} {first : Option Bytes} {m : Moment Disk} {d : Disk} {β : Type}
  {x : Action β} {b : β}

@[simp] theorem Disk.put_self (path : String) (content : Option Bytes) :
    d.put path content path = content := if_pos rfl

theorem Disk.put_of_ne {path other : String} (h : other ≠ path) (content : Option Bytes) :
    d.put path content other = d other := if_neg h

theorem Fetches.after {n : Manifest} {payload : Bytes} (h : Fetches m.past n payload) :
    Fetches (m.after x b d).past n payload := .tail _ h

theorem Sound.after (h : Sound c first m) (same : d c.payloadPath = m.state c.payloadPath) :
    Sound c first (m.after x b d) := by
  rcases h with kept | ⟨n, payload, fetched, verified, there⟩
  · exact .inl (same.trans kept)
  · exact .inr ⟨n, payload, fetched.after, verified, same.trans there⟩

theorem Sound.fine (h : Sound c first m) (other : x.isLaunch = false) : Fine c first m β x := by
  cases x with
  | launch p => cases other
  | _ => exact h

/-- A payload without the extension of a partial download is not written by one. -/
theorem partialPath_ne (plain : Path.extension? c.payloadPath ≠ some "download")
    (named : (Path.fileName? c.partialPath).isSome = true) : c.partialPath ≠ c.payloadPath := by
  cases file : Path.fileName? c.payloadPath with
  | none =>
    simp [SupervisorSettings.partialPath, Path.withExtension, file] at named
  | some name =>
    have last : "download".toList.reverse = ['d', 'a', 'o', 'l', 'n', 'w', 'o', 'd'] := by simp
    exact Path.withExtension_ne (by rw [file]; rfl) plain last (by decide) (by decide)

/-- What is known of a download while it is put into place. -/
structure Placing (c : SupervisorSettings) (first : Option Bytes) (n : Manifest) (payload : Bytes)
    (m : Moment Disk) : Prop where
  sound : Sound c first m
  offered : offer? m.past = some n
  fetched : Fetches m.past n payload

theorem Placing.after {n : Manifest} {payload : Bytes} (h : Placing c first n payload m)
    (same : d c.payloadPath = m.state c.payloadPath)
    (silent : offer? (m.after x b d).past = offer? m.past) :
    Placing c first n payload (m.after x b d) :=
  ⟨h.sound.after same, silent.trans h.offered, h.fetched.after⟩

theorem makeDirectory_placing {n : Manifest} {payload : Bytes} (h : Placing c first n payload m)
    (directory : String) :
    Soundly c first
      (fun m _ => Placing c first n payload m) (installStep c (.makeDirectory directory)) m := by
  refine .installStep h.sound ?_ ?_
  · rintro d rfl
    exact h.after rfl rfl
  · rintro r d - rfl e -
    exact h.sound.after rfl

theorem write_placing {n : Manifest} {payload : Bytes} (h : Placing c first n payload m)
    (plain : Path.extension? c.payloadPath ≠ some "download") :
    Soundly c first
      (fun m _ => Placing c first n payload m ∧ m.state c.partialPath = some payload)
      (installStep c (.write c.partialPath payload)) m := by
  have beside (content : Option Bytes) (named : (Path.fileName? c.partialPath).isSome = true) :
      m.state.put c.partialPath content c.payloadPath = m.state c.payloadPath :=
    Disk.put_of_ne (partialPath_ne plain named).symm content
  -- A path that can be written has a file's name at its end, so the partial file is another one.
  refine .installStep h.sound ?_ ?_
  · rintro d ⟨named, written⟩
    have there : d c.partialPath = some payload := by rw [written, Disk.put_self]
    exact ⟨h.after (by rw [written, beside _ named]) rfl, there⟩
  · intro r d undone step e _
    have left : d = m.state ∨ (Path.fileName? c.partialPath).isSome = true ∧
        ∃ left, d = m.state.put c.partialPath left := by
      match r, undone, step with
      | none, _, step | some (.error _), _, step => exact step
      | some (.ok ()), undone, _ => exact absurd rfl undone
    rcases left with rfl | ⟨named, left, rfl⟩
    · exact h.sound.after rfl
    · exact h.sound.after (beside left named)

theorem makeExecutable_placing {n : Manifest} {payload : Bytes} (h : Placing c first n payload m)
    (written : m.state c.partialPath = some payload) :
    Soundly c first
      (fun m _ => Placing c first n payload m ∧ m.state c.partialPath = some payload)
      (installStep c (.makeExecutable c.partialPath)) m := by
  refine .installStep h.sound ?_ ?_
  · rintro d rfl
    exact ⟨h.after rfl rfl, written⟩
  · rintro r d - rfl e -
    exact h.sound.after rfl

theorem rename_placed {n : Manifest} {payload : Bytes} (h : Placing c first n payload m)
    (verified : n.verifies payload = true) (written : m.state c.partialPath = some payload) :
    Soundly c first
      (fun m _ => Sound c first m ∧ offer? m.past = some n ∧ Placed c m n)
      (installStep c (.rename c.partialPath c.payloadPath)) m := by
  -- However the renaming ends, the file is the old one or the whole of what was written.
  have placed {r d} (there : ∃ bytes, m.state c.partialPath = some bytes ∧
      d = (m.state.put c.partialPath none).put c.payloadPath (some bytes)) :
      Sound c first (m.after (.rename c.partialPath c.payloadPath) r d) ∧
        d c.payloadPath = some payload := by
    obtain ⟨bytes, content, rfl⟩ := there
    obtain rfl : payload = bytes := Option.some.inj (written.symm.trans content)
    have here := Disk.put_self (d := m.state.put c.partialPath none) c.payloadPath (some payload)
    exact ⟨.inr ⟨n, payload, h.fetched.after, verified, here⟩, here⟩
  refine .installStep h.sound ?_ ?_
  · intro d there
    obtain ⟨sound, here⟩ := placed (r := some (.ok ())) there
    exact ⟨sound, h.offered, payload, here, verified⟩
  · intro r d undone step e _
    match r, undone, step with
    | none, _, .inl same => exact h.sound.after (by rw [same])
    | none, _, .inr there => exact (placed there).1
    | some (.error _), _, same => exact h.sound.after (congrFun same _)
    | some (.ok ()), undone, _ => exact absurd rfl undone

theorem install_placed {n : Manifest} {payload : Bytes} (h : Placing c first n payload m)
    (verified : n.verifies payload = true)
    (plain : Path.extension? c.payloadPath ≠ some "download") :
    Soundly c first
      (fun m _ => Sound c first m ∧ offer? m.past = some n ∧ Placed c m n)
      (install c payload) m :=
  .install (fun _ directory h => makeDirectory_placing h directory)
    (fun _ h => write_placing h plain) (fun _ h => makeExecutable_placing h.1 h.2)
    (fun _ h => rename_placed h.1 verified h.2) h

theorem obtains_placed (plain : Path.extension? c.payloadPath ≠ some "download") :
    Obtains c Step (Fine c first) (fun m _ => Sound c first m) (Sound c first) (Placed c) where
  acts _ _ _ h other := h.fine other
  breaksOff _ _ h _ := h
  asks m β x b d h asking step := by
    refine h.after (congrFun ?_ _)
    cases x with
    | manifest | fetch | sleep => exact step
    | fileLength => exact step.1
    | _ => cases asking
  reads m content d h step := by
    obtain ⟨rfl, truly⟩ := step
    refine ⟨h.after rfl, ?_⟩
    rintro n payload rfl verified
    exact ⟨payload, truly payload rfl, verified⟩
  installs _ _ _ h offered fetched verified :=
    install_placed ⟨h, offered, fetched⟩ verified plain

/-- What sleep does not change is kept over the wait before a launch. -/
theorem backOff_keeps {kept : Moment Disk → Prop} (sound : ∀ m, kept m → Sound c first m)
    (sleeps : ∀ m time r, kept m → kept (m.after (.sleep .relaunch time) r m.state))
    (crashes : UInt32) (lastCode : Option Int32) (h : kept m) :
    Soundly c first (fun m _ => kept m) (backOff c crashes lastCode) m := by
  have waits : Soundly c first (fun m _ => kept m)
      (pause .relaunch c.restartBackoff crashes.toNat) m := by
    unfold pause
    cases c.restartBackoff.times? crashes.toNat with
    | none => exact .throw (sound m h)
    | some time =>
      refine .await (sound m h) ?_ ?_
      · rintro a d rfl
        exact sleeps m time (some a) h
      · rintro d rfl
        exact sound _ (sleeps m time none h)
  unfold backOff
  split_ifs
  · exact .bind (.fail (sound m h))
  · exact waits

theorem crashesBefore_ready {p : InstalledPayload} (memory : Memory) (h : Sound c first m)
    (ready : Ready c m p) :
    Soundly c first (fun m _ => Sound c first m ∧ Ready c m p)
      (crashesBefore c memory p.manifest) m := by
  unfold crashesBefore
  split_ifs
  · exact .pure ⟨h, ready⟩
  · exact .pure ⟨h, ready⟩
  · have waits : Soundly c first (fun m _ => Sound c first m ∧ Ready c m p)
        (backOff c (memory.crashes + 1) (some 0)) m :=
      backOff_keeps (fun _ h => h.1) (fun _ _ _ h => ⟨h.1.after rfl, h.2⟩) _ _ ⟨h, ready⟩
    exact .bind (waits.mono fun m _ h => .pure h)

theorem settle_sound (crashes : UInt32) (checksum : String) (stop : LaunchEnd)
    (h : Sound c first m) :
    Soundly c first (fun m _ => Sound c first m) (settle c crashes checksum stop) m := by
  cases stop with
  | shutDown => exact .throw h
  | lockLost => exact .fail h
  | exited exit ranFor =>
    have waits (crashes : UInt32) := backOff_keeps (fun m (h : Sound c first m) => h)
      (fun _ _ _ h => h.after rfl) crashes exit.code? h
    by_cases asked : exit = .code 0
    · simp only [settle, if_pos asked]
      exact .pure h
    · simp only [settle, if_neg asked]
      exact .bind ((waits _).mono fun m _ h => .pure h)

theorem round_sound (plain : Path.extension? c.payloadPath ≠ some "download") (memory : Memory)
    (h : Sound c first m) :
    Soundly c first (fun m _ => Sound c first m) (round c memory) m := by
  refine .bind (((obtains_placed plain).ensurePayload h).mono ?_)
  rintro m p ⟨h, path, offered, placed⟩
  refine .bind ((crashesBefore_ready memory h ⟨path, offered, placed⟩).mono ?_)
  rintro m crashes ⟨h, ready⟩
  refine .bind (.ask h ?_)
  rintro owner d rfl
  cases owner with
  | false => exact .bind (.fail (h.after rfl))
  | true =>
    refine .bind (.ask ⟨h.after rfl, ready⟩ ?_)
    rintro stop d rfl
    exact settle_sound crashes _ stop ((h.after rfl).after rfl)

theorem step_sound (plain : Path.extension? c.payloadPath ≠ some "download") (memory : Memory)
    (m : Moment Disk) (h : Sound c first m) :
    Program.Safe Step (Fine c first)
      (fun m => Program.Round.Meets (fun _ => Sound c first m) fun _ => Sound c first m)
      (step c memory) m := by
  refine .bind (Program.Safe.mono (round_sound plain memory h) (fun _ _ _ here => here) ?_)
  rintro m (ending | memory) h
  · exact h
  · exact h

theorem supervise_sound (plain : Path.extension? c.payloadPath ≠ some "download") (most : Nat)
    (h : Sound c first m) :
    Program.Safe Step (Fine c first) (fun m _ => Sound c first m) (supervise c most) m := by
  refine .bind (.ask h ?_)
  rintro acquired d rfl
  cases acquired with
  | false => exact h.after rfl
  | true =>
    have locked : Sound c first (m.after .acquire true m.state) := h.after rfl
    have rounds := Program.Safe.rounds (step_sound plain) most (s := Memory.start) locked
    refine .bind (rounds.mono (fun _ _ _ here => here) ?_)
    rintro m (_ | ending) h
    · obtain ⟨-, h⟩ := h
      exact h
    -- The lock is given up, which changes no file; a process that breaks off does not come to that.
    · cases ending with
      | aborted => exact h
      | shutDown | failed =>
        refine .bind (.ask h ?_)
        rintro ⟨⟩ d rfl
        exact h.after rfl

end

/--
Whatever is offered, read, answered and broken off, next to files that nobody else writes: a
supervisor launches a payload only if its file holds what its manifest describes, and that manifest
is the one that was offered last, since the launch before. At every moment the payload's file holds
what it held at first, or a whole download that the manifest served with it describes.
-/
theorem launches_verified {c : SupervisorSettings} {most : Nat} {disk : Disk} {m : Moment Disk}
    {rest : Program Action (Option Ending)}
    (plain : Path.extension? c.payloadPath ≠ some "download")
    (reached : Reaches disk (supervise c most) m rest) :
    (∀ p next, rest = .act (.launch p) next → p.path = c.payloadPath ∧
      offer? m.past = some p.manifest ∧
      ∃ payload, m.state p.path = some payload ∧ p.manifest.verifies payload = true) ∧
    (m.state c.payloadPath = disk c.payloadPath ∨ ∃ n payload, Fetches m.past n payload ∧
      n.verifies payload = true ∧ m.state c.payloadPath = some payload) := by
  have start : Sound c (disk c.payloadPath) ⟨[], disk⟩ := .inl rfl
  have safe := (supervise_sound plain most start).reached reached
  have sound : Sound c (disk c.payloadPath) m := by
    cases rest with
    | done => exact safe
    | act x next =>
      obtain ⟨here, -⟩ := safe
      cases x with
      | launch => exact here.1
      | _ => exact here
  refine ⟨?_, sound⟩
  rintro p next rfl
  obtain ⟨⟨-, path, offered, placed⟩, -⟩ := safe
  exact ⟨path, offered, path ▸ placed⟩

/-- The payload that is in place is launched. -/
theorem launches_verified_in_place :
    let c : SupervisorSettings := ⟨"lock", "payload", 5, .ofSecs 2, .ofSecs 600, 5, .ofSecs 2⟩
    let n := Manifest.describe "v1" [1, 2, 3]
    let disk : Disk := fun path => if path = "payload" then some [1, 2, 3] else none
    ∃ m next, Reaches disk (supervise c 1) m (.act (.launch ⟨"payload", n⟩) next) ∧
      offer? m.past = some n ∧
      ∃ payload, m.state "payload" = some payload ∧ n.verifies payload = true := by
  intro c n disk
  have there : disk c.payloadPath = some [1, 2, 3] := rfl
  have reached := supervise_reaches_launch there (Manifest.verifies_describe "v1" [1, 2, 3]) 0
  obtain ⟨launch, -⟩ := launches_verified (by decide) reached
  obtain ⟨-, offered, placed⟩ := launch _ _ rfl
  exact ⟨_, _, reached, offered, placed⟩

end BuildDispatch.Supervisor
