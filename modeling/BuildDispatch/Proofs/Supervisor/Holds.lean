import BuildDispatch.Proofs.Program
import BuildDispatch.Supervisor.Run

/-! What holds at every moment of a part of supervision, which may end all supervision. -/
namespace BuildDispatch.Supervisor

open Program (Rule Safe)

variable {σ α β : Type} {rule : Rule Action σ}

/-- A part of supervision is safe, with one claim on its value and one on how it ends the rest. -/
def Holds (rule : Rule Action σ) (fine : Moment σ → (β : Type) → Action β → Prop)
    (ends : Moment σ → Ending → Prop) (post : Moment σ → α → Prop) (x : Supervision α)
    (m : Moment σ) : Prop :=
  Safe rule fine (fun m r =>
    match r with
    | .ok a => post m a
    | .error e => ends m e) x.run m

namespace Holds

variable {fine : Moment σ → (β : Type) → Action β → Prop} {ends : Moment σ → Ending → Prop}
  {post post' : Moment σ → α → Prop} {x : Supervision α} {m : Moment σ}

theorem mono (h : Holds rule fine ends post x m) (values : ∀ m a, post m a → post' m a) :
    Holds rule fine ends post' x m := by
  refine Safe.mono h (fun _ _ _ here => here) fun m r hr => ?_
  cases r with
  | ok a => exact values m a hr
  | error e => exact hr

theorem reaching (h : Holds rule fine ends post x m) :
    Holds rule fine ends (fun m' a => post m' a ∧ Program.Reaches rule m x.run m' (.done (.ok a)))
      x m := by
  refine Safe.mono (Safe.reaching h .start) (fun _ _ _ here => here) fun m' r hr => ?_
  cases r with
  | ok a => exact hr
  | error e => exact hr.1

theorem pure {a : α} (h : post m a) : Holds rule fine ends post (Pure.pure a) m := h

theorem bind {post : Moment σ → β → Prop} {f : α → Supervision β}
    (h : Holds rule fine ends (fun m a => Holds rule fine ends post (f a) m) x m) :
    Holds rule fine ends post (x >>= f) m := by
  refine Safe.bind (Safe.mono h (fun _ _ _ here => here) fun m r hr => ?_)
  cases r with
  | ok a => exact hr
  | error e => exact hr

theorem throw {e : Ending} (h : ends m e) :
    Holds rule fine ends post (throw e : Supervision α) m := h

theorem fail {e : SupervisorError} (h : ends m (.failed e)) :
    Holds rule fine ends post (fail e) m := h

theorem ask {x : Action α} (here : fine m α x)
    (later : ∀ a t, rule α m.state x a t → post (m.after x a t) a) :
    Holds rule fine ends post (ask x) m :=
  ⟨here, later⟩

theorem await {x : Action (Option α)} (here : fine m _ x)
    (answered : ∀ a t, rule _ m.state x (some a) t → post (m.after x (some a) t) a)
    (broken : ∀ t, rule _ m.state x none t → ends (m.after x none t) .shutDown) :
    Holds rule fine ends post (await x) m := by
  refine bind (ask here fun a t step => ?_)
  cases a with
  | none => exact throw (broken t step)
  | some a => exact pure (answered a t step)

end Holds

end BuildDispatch.Supervisor
