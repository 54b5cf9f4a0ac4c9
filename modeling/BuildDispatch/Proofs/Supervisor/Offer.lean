import BuildDispatch.Proofs.Supervisor.Holds

/-!
What a supervisor obtains before a launch: the manifest that was offered last, and whatever an
installation of the payload leaves behind (`Obtains.ensurePayload`).
-/
namespace BuildDispatch.Supervisor

/-- The manifest that was offered last since a launch. The latest action comes first. -/
def offer? : Program.Trace Action → Option Manifest
  | [] => none
  | ⟨_, .manifest, some (.ok m)⟩ :: _ => some m
  | ⟨_, .fetch, some (.ok (m, _))⟩ :: _ => some m
  | ⟨_, .launch _, _⟩ :: _ => none
  | _ :: past => offer? past

/-- Whether an action only asks for something, or waits before it asks again. -/
def Action.isAsking {α : Type} : Action α → Bool
  | .manifest | .fetch | .sleep .download _ | .fileLength _ => true
  | _ => false

def Fetches (past : Program.Trace Action) (m : Manifest) (payload : Bytes) : Prop :=
  ⟨_, .fetch, some (.ok (m, payload))⟩ ∈ past

def Ending.isExhausted : Ending → Bool
  | .failed (.budgetExhausted ..) => true
  | _ => false

variable {σ : Type}

section

variable {rule : Program.Rule Action σ} {fine : Moment σ → (β : Type) → Action β → Prop}
  {ends : Moment σ → Ending → Prop} {c : SupervisorSettings} {m : Moment σ}

theorem Holds.installStep {post : Moment σ → Unit → Prop}
    {x : Action (Option (Except String Unit))} (here : fine m _ x)
    (done : ∀ t, rule _ m.state x (some (.ok ())) t → post (m.after x (some (.ok ())) t) ())
    (undone : ∀ r t, r ≠ some (.ok ()) → rule _ m.state x r t →
      ∀ e, e.isExhausted = false → ends (m.after x r t) e) :
    Holds rule fine ends post (installStep c x) m := by
  refine .bind (.await here (fun r t step => ?_) fun t step => undone none t nofun step _ rfl)
  rcases r with reason | ⟨⟩
  · exact .fail (undone _ t (by rintro ⟨⟩) step _ rfl)
  · exact .pure (done t step)

/-- An installation by its steps: what holds before, once the payload is written, and after it. -/
theorem Holds.install {before written after : Moment σ → Prop} {payload : Bytes}
    (makes : ∀ m directory, before m → Holds rule fine ends (fun m _ => before m)
      (Supervisor.installStep c (.makeDirectory directory)) m)
    (writes : ∀ m, before m → Holds rule fine ends (fun m _ => written m)
      (Supervisor.installStep c (.write c.partialPath payload)) m)
    (allows : ∀ m, written m → Holds rule fine ends (fun m _ => written m)
      (Supervisor.installStep c (.makeExecutable c.partialPath)) m)
    (renames : ∀ m, written m → Holds rule fine ends (fun m _ => after m)
      (Supervisor.installStep c (.rename c.partialPath c.payloadPath)) m) (h : before m) :
    Holds rule fine ends (fun m _ => after m) (install c payload) m := by
  have rest (m : Moment σ) (h : before m) : Holds rule fine ends (fun m _ => after m)
      (do
        Supervisor.installStep c (.write c.partialPath payload)
        Supervisor.installStep c (.makeExecutable c.partialPath)
        Supervisor.installStep c (.rename c.partialPath c.payloadPath)) m := by
    refine .bind ((writes m h).mono fun m _ h => ?_)
    refine .bind ((allows m h).mono fun m _ h => ?_)
    exact renames m h
  unfold Supervisor.install
  cases Path.parent? c.payloadPath with
  | none => exact rest m h
  | some directory => exact .bind ((makes m directory h).mono fun m _ h => rest m h)

end

/--
What is kept while a payload is obtained, and what is true of its manifest once it is in place, as
far as reading its file and an installation keep to it.
-/
structure Obtains (c : SupervisorSettings) (rule : Program.Rule Action σ)
    (fine : Moment σ → (β : Type) → Action β → Prop) (ends : Moment σ → Ending → Prop)
    (kept : Moment σ → Prop) (placed : Moment σ → Manifest → Prop) : Prop where
  acts : ∀ m β (x : Action β), kept m → x.isLaunch = false → fine m β x
  breaksOff : ∀ m e, kept m → e.isExhausted = false → ends m e
  asks : ∀ m β (x : Action β) b t, kept m → x.isAsking = true → rule β m.state x b t →
    kept (m.after x b t)
  reads : ∀ m content t, kept m → rule _ m.state (.read c.payloadPath) content t →
    let m' := m.after (.read c.payloadPath) content t
    kept m' ∧ ∀ n payload, content = some (some payload) → n.verifies payload = true → placed m' n
  installs : ∀ m n payload, kept m → offer? m.past = some n → Fetches m.past n payload →
    n.verifies payload = true →
    Holds rule fine ends (fun m _ => kept m ∧ offer? m.past = some n ∧ placed m n)
      (install c payload) m

namespace Obtains

variable {c : SupervisorSettings} {rule : Program.Rule Action σ}
  {fine : Moment σ → (β : Type) → Action β → Prop} {ends : Moment σ → Ending → Prop}
  {kept : Moment σ → Prop} {placed : Moment σ → Manifest → Prop}
  (o : Obtains c rule fine ends kept placed) {m : Moment σ}
include o

theorem pause {time : Duration} {times : Nat} (h : kept m) :
    Holds rule fine ends (fun m _ => kept m) (pause .download time times) m := by
  unfold Supervisor.pause
  cases time.times? times with
  | none => exact .throw (o.breaksOff m _ h rfl)
  | some total =>
    refine .await (o.acts m _ _ h rfl) (fun a t step => o.asks m _ _ _ _ h rfl step) ?_
    intro t step
    exact o.breaksOff _ _ (o.asks m _ _ _ _ h rfl step) rfl

theorem askManifest (h : kept m) :
    Holds rule fine ends (fun m r => kept m ∧ ∀ n, r = .ok n → offer? m.past = some n)
      (await .manifest) m := by
  refine .await (o.acts m _ _ h rfl) (fun r t step => ?_) fun t step => ?_
  · refine ⟨o.asks m _ _ _ _ h rfl step, ?_⟩
    rintro n rfl
    rfl
  · exact o.breaksOff _ _ (o.asks m _ _ _ _ h rfl step) rfl

theorem obtainManifest (made left : Nat) (h : kept m) :
    Holds rule fine ends (fun m n => kept m ∧ offer? m.past = some n)
      (obtainManifest c made left) m := by
  induction left generalizing made m with
  | zero =>
    refine .bind ((o.askManifest h).mono ?_)
    rintro m (e | n) ⟨still, offered⟩
    · exact .fail (o.breaksOff m _ still rfl)
    · exact .pure ⟨still, offered n rfl⟩
  | succ left ih =>
    refine .bind ((o.askManifest h).mono ?_)
    rintro m (e | n) ⟨still, offered⟩
    · dsimp only
      cases e.isTransient with
      | false => exact .bind (.fail (o.breaksOff m _ still rfl))
      | true => exact .bind ((o.pause still).mono fun m _ still => ih (made + 1) still)
    · exact .pure ⟨still, offered n rfl⟩

theorem isInstalled {n : Manifest} (h : kept m) (offered : offer? m.past = some n) :
    Holds rule fine ends (fun m b => kept m ∧ offer? m.past = some n ∧ (b = true → placed m n))
      (isInstalled c n) m := by
  refine .bind (.await (o.acts m _ _ h rfl) (fun length t step => ?_) fun t step => ?_)
  · have sized := o.asks m _ _ _ t h rfl step
    by_cases same : length = some n.length
    · rw [if_neg fun differs => differs same]
      refine .bind (.await (o.acts _ _ _ sized rfl) (fun content t step => ?_) fun t step => ?_)
      · obtain ⟨read, true⟩ := o.reads _ _ t sized step
        cases content with
        | none => exact .pure ⟨read, offered, nofun⟩
        | some payload => exact .pure ⟨read, offered, true n payload rfl⟩
      · exact o.breaksOff _ _ (o.reads _ _ t sized step).1 rfl
    · rw [if_pos same]
      exact .pure ⟨sized, offered, nofun⟩
  · exact o.breaksOff _ _ (o.asks m _ _ _ t h rfl step) rfl

theorem fetchOnce (made : Nat) (h : kept m) :
    Holds rule fine ends (fun m r => kept m ∧ ∀ n, r = .installed n →
      offer? m.past = some n ∧ placed m n) (fetchOnce c made) m := by
  refine .bind (.await (o.acts m _ _ h rfl) (fun r t step => ?_) fun t step => ?_)
  · have still := o.asks m _ _ _ _ h rfl step
    rcases r with e | ⟨n, payload⟩
    · dsimp only
      cases e.isTransient with
      | false => exact .bind (.fail (o.breaksOff _ _ still rfl))
      | true => exact .pure ⟨still, nofun⟩
    · dsimp only
      cases verified : n.verifies payload with
      | false => exact .pure ⟨still, nofun⟩
      | true =>
        refine .bind ((o.installs _ n payload still rfl (.head _) verified).mono ?_)
        rintro m - ⟨still, offered, there⟩
        refine .pure ⟨still, ?_⟩
        rintro _ ⟨⟩
        exact ⟨offered, there⟩
  · exact o.breaksOff _ _ (o.asks m _ _ _ _ h rfl step) rfl

theorem download (corrupt : Option String) (made left : Nat) (h : kept m) :
    Holds rule fine ends (fun m n => kept m ∧ offer? m.past = some n ∧ placed m n)
      (download c corrupt made left) m := by
  induction left generalizing corrupt made m with
  | zero => exact .fail (o.breaksOff m _ h rfl)
  | succ left ih =>
    refine .bind ((o.fetchOnce made h).mono ?_)
    rintro m (n | expected | e) ⟨still, there⟩
    · exact .pure ⟨still, there n rfl⟩
    · cases left with
      | zero => exact ih (some expected) (made + 1) still
      | succ left =>
        exact .bind ((o.pause still).mono fun m _ still => ih (some expected) (made + 1) still)
    · cases left with
      | zero => exact .bind (.fail (o.breaksOff m _ still rfl))
      | succ left =>
        exact .bind ((o.pause still).mono fun m _ still => ih corrupt (made + 1) still)

theorem ensurePayload (h : kept m) :
    Holds rule fine ends (fun m p => kept m ∧ p.path = c.payloadPath ∧
      offer? m.past = some p.manifest ∧ placed m p.manifest) (ensurePayload c) m := by
  refine .bind ((o.obtainManifest 0 (c.attempts - 1) h).mono ?_)
  rintro m n ⟨still, offered⟩
  refine .bind ((o.isInstalled still offered).mono ?_)
  rintro m (_ | _) ⟨still, offered, there⟩
  · refine .bind ((o.download none 0 c.attempts still).mono ?_)
    rintro m n ⟨still, offered, there⟩
    exact .pure ⟨still, rfl, offered, there⟩
  · exact .pure ⟨still, rfl, offered, there rfl⟩

end Obtains

/-- Whether an action is neither a launch nor a wait before one. -/
def Action.isAside {α : Type} : Action α → Bool
  | .launch _ | .sleep .relaunch _ => false
  | _ => true

section

variable {c : SupervisorSettings} {rule : Program.Rule Action σ}
  {fine : Moment σ → (β : Type) → Action β → Prop} {ends : Moment σ → Ending → Prop}
  {kept : Moment σ → Prop} {m : Moment σ} {n : Manifest}
  (acts : ∀ m β (x : Action β), kept m → fine m β x)
  (breaksOff : ∀ m e, kept m → e.isExhausted = false → ends m e)
  (aside : ∀ m β (x : Action β) b t, kept m → x.isAside = true → kept (m.after x b t))
include acts breaksOff aside

theorem install_aside (payload : Bytes) (h : kept m) (offered : offer? m.past = some n) :
    Holds rule fine ends (fun m _ => kept m ∧ offer? m.past = some n) (install c payload) m := by
  have step {x : Action (Option (Except String Unit))} (away : x.isAside = true)
      (silent : ∀ (m : Moment σ) r t, offer? (m.after x r t).past = offer? m.past) (m : Moment σ)
      (h : kept m ∧ offer? m.past = some n) :
      Holds rule fine ends (fun m _ => kept m ∧ offer? m.past = some n) (installStep c x) m := by
    refine .installStep (acts m _ _ h.1) (fun t _ => ?_) fun r t _ _ e other => ?_
    · exact ⟨aside m _ _ _ t h.1 away, (silent m _ t).trans h.2⟩
    · exact breaksOff _ e (aside m _ _ r t h.1 away) other
  exact .install (fun m _ => step rfl (fun _ _ _ => rfl) m) (step rfl fun _ _ _ => rfl)
    (step rfl fun _ _ _ => rfl) (step rfl fun _ _ _ => rfl) ⟨h, offered⟩

/-- What only launches and the waits before them change is kept while a payload is obtained. -/
theorem obtains_aside : Obtains c rule fine ends kept fun _ _ => True where
  acts m β x h _ := acts m β x h
  breaksOff := breaksOff
  asks m β x b t h asking _ := by
    refine aside m β x b t h ?_
    cases x with
    | sleep reason =>
      cases reason with
      | download => rfl
      | relaunch => cases asking
    | launch => cases asking
    | _ => rfl
  reads m content t h _ := ⟨aside m _ _ content t h rfl, fun _ _ _ _ => trivial⟩
  installs _ _ payload h offered _ _ :=
    (install_aside acts breaksOff aside payload h offered).mono fun _ _ h => ⟨h.1, h.2, trivial⟩

end

end BuildDispatch.Supervisor
