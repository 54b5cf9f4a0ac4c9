import BuildDispatch.Proofs.Supervisor.Verified

/-!
What is left of supervision once a launch has ended. It depends on the crashes before the launch and
on the checksum that was launched, and on nothing else (`supervise_resumes`). What was launched lay
in the payload's place.
-/
namespace BuildDispatch.Supervisor

variable {α : Type} {c : SupervisorSettings}

inductive Installing : Action (Option (Except String Unit)) → Prop where
  | makeDirectory (path : String) : Installing (.makeDirectory path)
  | write (path : String) (content : Bytes) : Installing (.write path content)
  | makeExecutable (path : String) : Installing (.makeExecutable path)
  | rename (source target : String) : Installing (.rename source target)

/-- An installation that is done has put a payload into place. -/
theorem install_puts {rule : Program.Rule Action Disk}
    {fine : Moment Disk → (β : Type) → Action β → Prop} {ends : Moment Disk → Ending → Prop}
    (steps : ∀ {β : Type} {d d' : Disk} {x : Action β} {b : β}, rule β d x b d' → Step β d x b d')
    (does : ∀ (m : Moment Disk) (x : Action (Option (Except String Unit)))
      (post : Moment Disk → Prop), Installing x →
      (∀ d, rule _ m.state x (some (.ok ())) d → post (m.after x (some (.ok ())) d)) →
      Holds rule fine ends (fun m _ => post m) (installStep c x) m)
    (payload : Bytes) (m : Moment Disk) :
    Holds rule fine ends (fun m' _ =>
      offer? m'.past = offer? m.past ∧ m'.state c.payloadPath = some payload)
      (install c payload) m := by
  let kept (m' : Moment Disk) := offer? m'.past = offer? m.past
  let written (m' : Moment Disk) := kept m' ∧ m'.state c.partialPath = some payload
  have makes (m' : Moment Disk) (directory : String) (h : kept m') :
      Holds rule fine ends (fun m' _ => kept m') (installStep c (.makeDirectory directory)) m' :=
    does m' _ kept (.makeDirectory directory) fun _ _ => h
  have writes (m' : Moment Disk) (h : kept m') :
      Holds rule fine ends (fun m' _ => written m') (installStep c (.write c.partialPath payload))
        m' := by
    refine does m' _ written (.write c.partialPath payload) fun d step => ⟨h, ?_⟩
    obtain ⟨-, done⟩ := steps step
    change d c.partialPath = _
    rw [done, Disk.put_self]
  have permits (m' : Moment Disk) (h : written m') :
      Holds rule fine ends (fun m' _ => written m') (installStep c (.makeExecutable c.partialPath))
        m' := by
    refine does m' _ written (.makeExecutable c.partialPath) fun d step => ⟨h.1, ?_⟩
    obtain rfl : d = m'.state := steps step
    exact h.2
  refine .install makes writes permits (fun m' h => ?_) rfl
  refine does m' _ (fun m' => kept m' ∧ m'.state c.payloadPath = some payload)
    (.rename c.partialPath c.payloadPath) fun d step => ⟨h.1, ?_⟩
  obtain ⟨bytes, moved, done⟩ := steps step
  change d c.payloadPath = _
  rw [done, Disk.put_self, ← moved, h.2]

/-- A part of supervision launches nothing and comes to this, unless it ends all supervision. -/
abbrev Between {α : Type} : (Moment Disk → α → Prop) → Supervision α → Moment Disk → Prop :=
  Holds Step (fun _ _ x => x.isLaunch = false) fun _ _ => True

theorem obtains_between : Obtains c Step (fun _ _ x => x.isLaunch = false) (fun _ _ => True)
    (fun _ => True) (Placed c) where
  acts _ _ _ _ other := other
  breaksOff _ _ _ _ := trivial
  asks _ _ _ _ _ _ _ _ := trivial
  reads m content d _ step := by
    refine ⟨trivial, ?_⟩
    rintro n payload rfl verified
    obtain ⟨rfl, truly⟩ := step
    exact ⟨payload, truly payload rfl, verified⟩
  installs m n payload _ offered _ verified := by
    refine (install_puts (fun step => step) (fun m x post installing done => ?_) payload m).mono ?_
    · refine .installStep ?_ done fun _ _ _ _ _ _ => trivial
      cases installing <;> rfl
    · exact fun m' _ h => ⟨trivial, h.1.trans offered, payload, h.2, verified⟩

variable {m : Moment Disk}

theorem backOff_between (crashes : UInt32) (lastCode : Option Int32) :
    Between (fun m' _ => m'.state = m.state) (backOff c crashes lastCode) m := by
  have waits : Between (fun m' _ => m'.state = m.state)
      (pause .relaunch c.restartBackoff crashes.toNat) m := by
    unfold pause
    cases c.restartBackoff.times? crashes.toNat with
    | none => exact .throw trivial
    | some time => exact .await rfl (fun _ _ step => step) fun _ _ => trivial
  unfold backOff
  split_ifs
  · exact .bind (.fail trivial)
  · exact waits

theorem crashesBefore_between (memory : Memory) (n : Manifest) :
    Between (fun m' _ => m'.state = m.state) (crashesBefore c memory n) m := by
  unfold crashesBefore
  split_ifs
  · exact .pure rfl
  · exact .pure rfl
  · exact .bind ((backOff_between _ _).mono fun _ _ still => .pure still)

theorem settle_between (crashes : UInt32) (checksum : String) (stop : LaunchEnd) :
    Between (fun _ _ => True) (settle c crashes checksum stop) m := by
  cases stop with
  | shutDown => exact .throw trivial
  | lockLost => exact .fail trivial
  | exited exit ranFor =>
    by_cases asked : exit = .code 0
    · simp only [settle, if_pos asked]
      exact .pure trivial
    · simp only [settle, if_neg asked]
      exact .bind ((backOff_between _ _).mono fun _ _ _ => .pure trivial)

variable (c)

/--
Each launch is of a payload in its place, and is followed by what it has to be followed by, whatever
was answered before.
-/
inductive Resumes : Moment Disk → Program Action (Option Ending) → Prop where
  | done {m : Moment Disk} {ending : Option Ending} : Resumes m (.done ending)
  | launch {m : Moment Disk} {n : Manifest} {crashes : UInt32} {left : Nat} (there : Placed c m n)
    (later : ∀ stop, Resumes (m.after (.launch ⟨c.payloadPath, n⟩) stop m.state)
      (afterLaunch c crashes n.checksum left stop)) :
    Resumes m (.act (.launch ⟨c.payloadPath, n⟩) (afterLaunch c crashes n.checksum left))
  | aside {m : Moment Disk} {β : Type} {x : Action β} {next : β → Program Action (Option Ending)}
    (aside : x.isLaunch = false)
    (later : ∀ b d, Step β m.state x b d → Resumes (m.after x b d) (next b)) :
    Resumes m (.act x next)

variable {c}

/-- What is done between launches is no launch. -/
theorem resumes_bind {post : Moment Disk → α → Prop} {x : Supervision α} {m : Moment Disk}
    {k : Except Ending α → Program Action (Option Ending)} (h : Between post x m)
    (goesOn : ∀ m a, post m a → Resumes c m (k (.ok a)))
    (ends : ∀ m e, Resumes c m (k (.error e))) : Resumes c m (x.run.bind k) := by
  unfold Between Holds at h
  generalize x.run = p at h
  induction p generalizing m with
  | done r =>
    cases r with
    | ok a => exact goesOn m a h
    | error e => exact ends m e
  | act y next ih => exact .aside h.1 fun b d step => ih b (h.2 b d step)

theorem closing_resumes (ending : Option Ending) (m : Moment Disk) :
    Resumes c m (closing ending) := by
  rcases ending with _ | ending
  · exact .done
  · cases ending with
    | aborted => exact .done
    | _ => exact .aside rfl fun _ _ _ => .done

theorem watch_resumes (left : Nat) (memory : Memory) (m : Moment Disk) :
    Resumes c m (watch c left memory) := by
  induction left generalizing memory m with
  | zero => exact .done
  | succ left ih =>
    have after (crashes : UInt32) (checksum : String) (stop : LaunchEnd) (m : Moment Disk) :
        Resumes c m (afterLaunch c crashes checksum left stop) :=
      resumes_bind (settle_between crashes checksum stop) (fun m memory _ => ih memory m)
        fun m e => closing_resumes (some e) m
    rw [watch_succ_eq]
    refine resumes_bind (obtains_between.ensurePayload trivial) ?_ fun m e => closing_resumes _ m
    rintro m ⟨path, n⟩ ⟨-, rfl, -, there⟩
    refine resumes_bind (crashesBefore_between memory n) ?_ fun m e => closing_resumes _ m
    intro m' crashes still
    refine .aside rfl fun owner d step => ?_
    cases owner with
    | false => exact closing_resumes (some (.failed (.lockLost c.lockPath))) _
    | true =>
      obtain rfl : d = m'.state := step
      refine .launch ?_ fun stop => after crashes _ stop _
      unfold Placed at there ⊢
      rwa [← still] at there

theorem supervise_resumes (most : Nat) (m : Moment Disk) : Resumes c m (supervise c most) := by
  rw [supervise_eq]
  refine .aside rfl fun owner _ _ => ?_
  cases owner with
  | false => exact .done
  | true => exact watch_resumes most .start _

end BuildDispatch.Supervisor
