import BuildDispatch.Program

/-!
What holds at every moment of a program. `Program.Safe` goes through the program action by action;
it holds of a sequence if it holds of the parts (`Program.Safe.bind`), and what it says is true of
every moment that a run reaches (`Program.Safe.reached`). `Program.Ends` says what holds at the end
of every run, of a sequence by its parts (`Program.Ends.bind`).
-/
namespace BuildDispatch.Program

variable {Act : Type → Type 1} {α β σ ρ τ : Type} {rule : Rule Act σ}

/-- Every action that a program comes to is fine at its moment, and so is its value at the end. -/
def Safe (rule : Rule Act σ) (fine : Moment Act σ → (β : Type) → Act β → Prop)
    (post : Moment Act σ → α → Prop) : Program Act α → Moment Act σ → Prop
  | done a, m => post m a
  | act x next, m => fine m _ x ∧
      ∀ b t, rule _ m.state x b t → Safe rule fine post (next b) (m.after x b t)

def Round.Meets (again : τ → Prop) (stop : ρ → Prop) : Round τ ρ → Prop
  | .again s => again s
  | .stop a => stop a

namespace Safe

variable {fine fine' : Moment Act σ → (β : Type) → Act β → Prop}
  {post post' : Moment Act σ → α → Prop} {p : Program Act α} {m : Moment Act σ}

theorem mono (h : Safe rule fine post p m) (actions : ∀ m β x, fine m β x → fine' m β x)
    (values : ∀ m a, post m a → post' m a) : Safe rule fine' post' p m := by
  induction p generalizing m with
  | done a => exact values m a h
  | act x next ih =>
    obtain ⟨here, later⟩ := h
    exact ⟨actions m _ x here, fun b t step => ih b (later b t step)⟩

theorem trivial (p : Program Act α) (m : Moment Act σ) :
    Safe rule (fun _ _ _ => True) (fun _ _ => True) p m := by
  induction p generalizing m with
  | done a => exact True.intro
  | act x next ih => exact ⟨True.intro, fun b t _ => ih b _⟩

theorem bind {post : Moment Act σ → β → Prop} {f : α → Program Act β}
    (h : Safe rule fine (fun m a => Safe rule fine post (f a) m) p m) :
    Safe rule fine post (p.bind f) m := by
  induction p generalizing m with
  | done a => exact h
  | act x next ih =>
    obtain ⟨here, later⟩ := h
    exact ⟨here, fun b t step => ih b (later b t step)⟩

theorem ask {post : Moment Act σ → β → Prop} {x : Act β} (here : fine m β x)
    (later : ∀ b t, rule β m.state x b t → post (m.after x b t) b) :
    Safe rule fine post (Program.ask x) m :=
  ⟨here, later⟩

/-- What each round keeps until it stops holds however often the round is repeated. -/
theorem rounds {keeps : Moment Act σ → τ → Prop} {post : Moment Act σ → ρ → Prop}
    {round : τ → Program Act (Round τ ρ)}
    (h : ∀ s m, keeps m s → Safe rule fine (fun m => Round.Meets (keeps m) (post m)) (round s) m)
    (most : Nat) {s : τ} {m : Moment Act σ} (start : keeps m s) :
    Safe rule fine (fun m r =>
      match r with
      | none => ∃ s, keeps m s
      | some a => post m a) (Program.rounds round most s) m := by
  induction most generalizing s m with
  | zero => exact ⟨s, start⟩
  | succ most ih =>
    refine bind ((h s m start).mono (fun _ _ _ here => here) fun m r kept => ?_)
    cases r with
    | again s => exact ih kept
    | stop a => exact kept

/-- The value at the end is that of a run. -/
theorem reaching {m₀ : Moment Act σ} {p₀ : Program Act α} (h : Safe rule fine post p m)
    (run : Reaches rule m₀ p₀ m p) :
    Safe rule fine (fun m' a => post m' a ∧ Reaches rule m₀ p₀ m' (.done a)) p m := by
  induction p generalizing m with
  | done a => exact ⟨h, run⟩
  | act x next ih =>
    obtain ⟨here, later⟩ := h
    exact ⟨here, fun b t step => ih b (later b t step) (run.act step)⟩

theorem reached {m' : Moment Act σ} {q : Program Act α} (h : Safe rule fine post p m)
    (run : Reaches rule m p m' q) : Safe rule fine post q m' := by
  induction run with
  | start => exact h
  | act _ step ih => exact ih.2 _ _ step

end Safe

theorem bind_assoc (p : Program Act α) (f : α → Program Act β) (g : β → Program Act σ) :
    (p.bind f).bind g = p.bind fun a => (f a).bind g := by
  induction p with
  | done a => rfl
  | act x next ih =>
    exact congrArg (act x) (funext ih)

/-- Where every action can be answered, every program can be run. -/
theorem exists_run (total : ∀ (β : Type) s (x : Act β), ∃ b t, rule β s x b t)
    (p : Program Act α) (s : σ) : ∃ trace a t, Run rule s p trace a t := by
  induction p generalizing s with
  | done a => exact ⟨[], a, s, .done⟩
  | act x next ih =>
    obtain ⟨b, t, step⟩ := total _ s x
    obtain ⟨trace, a, u, run⟩ := ih b t
    exact ⟨_, a, u, .act step run⟩

section Run

variable {p : Program Act α} {s t : σ} {trace : Trace Act} {a : α} (run : Run rule s p trace a t)
include run

/-- What every step keeps, a run keeps. -/
theorem Run.keeps {holds : σ → Prop}
    (step : ∀ {β : Type} {s t : σ} {x : Act β} {b : β}, rule β s x b t → holds s → holds t)
    (start : holds s) : holds t := by
  induction run with
  | done => exact start
  | act first _ ih => exact ih (step first start)

theorem Run.imp {rule' : Rule Act σ}
    (allows : ∀ {β : Type} {s t : σ} {x : Act β} {b : β}, rule β s x b t → rule' β s x b t) :
    Run rule' s p trace a t := by
  induction run with
  | done => exact .done
  | act first _ ih => exact .act (allows first) ih

/--
What the last state of a run has, and so by `back` every state before it, can be taken as given at
each step of the run.
-/
theorem Run.guarded {keeps holds : σ → Prop}
    (forth : ∀ {β : Type} {s t : σ} {x : Act β} {b : β}, rule β s x b t → keeps s → keeps t)
    (back : ∀ {β : Type} {s t : σ} {x : Act β} {b : β},
      rule β s x b t → keeps s → holds t → holds s)
    (start : keeps s) (last : holds t) :
    holds s ∧ Run (fun β s x b t => rule β s x b t ∧ holds t) s p trace a t := by
  induction run with
  | done => exact ⟨last, .done⟩
  | act step rest ih =>
    obtain ⟨after, run⟩ := ih (forth step start) last
    exact ⟨back step start after, .act ⟨step, after⟩ run⟩

end Run

theorem Reaches.imp {rule' : Rule Act σ} {m m' : Moment Act σ} {p q : Program Act α}
    (reached : Reaches rule m p m' q)
    (allows : ∀ {β : Type} {s t : σ} {x : Act β} {b : β}, rule β s x b t → rule' β s x b t) :
    Reaches rule' m p m' q := by
  induction reached with
  | start => exact .start
  | act _ step ih => exact ih.act (allows step)

/-- What holds of every run of a program from a state: of its trace, its value and its end. -/
def Ends (rule : Rule Act σ) (post : Trace Act → α → σ → Prop) (p : Program Act α) (s : σ) : Prop :=
  ∀ trace a t, Run rule s p trace a t → post trace a t

namespace Ends

variable {post post' : Trace Act → α → σ → Prop} {p : Program Act α} {s : σ}

theorem mono (h : Ends rule post p s) (values : ∀ l a t, post l a t → post' l a t) :
    Ends rule post' p s :=
  fun trace a t run => values trace a t (h trace a t run)

theorem done {a : α} (h : post [] a s) : Ends rule post (.done a) s := by
  intro trace b t run
  obtain ⟨rfl, rfl, rfl⟩ := run_done_iff.1 run
  exact h

theorem bind {post : Trace Act → β → σ → Prop} {f : α → Program Act β}
    (h : Ends rule (fun l a t => Ends rule (fun l' b u => post (l ++ l') b u) (f a) t) p s) :
    Ends rule post (p.bind f) s := by
  intro trace b u run
  obtain ⟨first, second, a, t, rfl, before, after⟩ := run_bind_iff.1 run
  exact h first a t before second b u after

theorem ask {x : Act α} (h : ∀ a t, rule α s x a t → post [⟨α, x, a⟩] a t) :
    Ends rule post (Program.ask x) s := by
  intro trace a t run
  obtain ⟨b, u, rest, rfl, step, after⟩ := run_act_iff.1 run
  obtain ⟨rfl, rfl, rfl⟩ := run_done_iff.1 after
  exact h _ _ step

end Ends

end BuildDispatch.Program
