/-!
Programs as trees: each action has an answer, on which the rest of the program depends. What holds
of a program for all answers is proved by induction on the tree.
-/
namespace BuildDispatch

/-- A program over actions. An action of type `Act β` is answered by a value of type `β`. -/
inductive Program (Act : Type → Type 1) (α : Type) : Type 1 where
  | done (a : α)
  | act {β : Type} (x : Act β) (next : β → Program Act α)

namespace Program

variable {Act : Type → Type 1} {α β σ ρ : Type}

def bind : Program Act α → (α → Program Act β) → Program Act β
  | done a, f => f a
  | act x next, f => act x fun b => (next b).bind f

instance : Monad (Program Act) where
  pure := done
  bind := bind

def ask (x : Act α) : Program Act α := act x done

/-- Runs a program, where each action is carried out in a monad. -/
def run {m : Type → Type} [Monad m] (carryOut : {β : Type} → Act β → m β) :
    Program Act α → m α
  | done a => Pure.pure a
  | act x next => do (next (← carryOut x)).run carryOut

inductive Round (σ ρ : Type) where
  | again (s : σ)
  | stop (r : ρ)

/-- Repeats a round until it stops, at most `most` times. -/
def rounds (round : σ → Program Act (Round σ ρ)) : (most : Nat) → σ → Program Act (Option ρ)
  | 0, _ => Pure.pure none
  | most + 1, s => do
    match ← round s with
    | .again s => rounds round most s
    | .stop r => return some r

/-- What may happen at an action: the state before it, its answer, and the state after it. -/
abbrev Rule (Act : Type → Type 1) (σ : Type) := (β : Type) → σ → Act β → β → σ → Prop

/-- The actions of a run, each with its answer. -/
abbrev Trace (Act : Type → Type 1) := List (Σ β : Type, Act β × β)

/-- A run of a program under a rule, from a state with a trace to a value and a state. -/
inductive Run (rule : Rule Act σ) : σ → Program Act α → Trace Act → α → σ → Prop where
  | done {s : σ} {a : α} : Run rule s (.done a) [] a s
  | act {β : Type} {s t u : σ} {x : Act β} {b : β} {next : β → Program Act α} {trace : Trace Act}
      {a : α} (step : rule β s x b t) (rest : Run rule t (next b) trace a u) :
      Run rule s (.act x next) (⟨β, x, b⟩ :: trace) a u

/-- What happened up to a moment, the latest action first, and the state at that moment. -/
structure Moment (Act : Type → Type 1) (σ : Type) where
  past : Trace Act
  state : σ

def Moment.after (m : Moment Act σ) (x : Act β) (b : β) (t : σ) : Moment Act σ :=
  ⟨⟨β, x, b⟩ :: m.past, t⟩

/-- A run of a program from a moment to a later one, with what is then left of the program. -/
inductive Reaches (rule : Rule Act σ) (m : Moment Act σ) (p : Program Act α) :
    Moment Act σ → Program Act α → Prop where
  | start : Reaches rule m p m p
  | act {m' : Moment Act σ} {β : Type} {x : Act β} {next : β → Program Act α} {b : β} {t : σ}
      (before : Reaches rule m p m' (.act x next)) (step : rule β m'.state x b t) :
      Reaches rule m p (m'.after x b t) (next b)

variable {rule : Rule Act σ} {s u : σ}

@[simp] theorem run_done_iff {a b : α} {trace : Trace Act} :
    Run rule s (.done a) trace b u ↔ trace = [] ∧ b = a ∧ u = s := by
  constructor
  · rintro ⟨⟩
    exact ⟨rfl, rfl, rfl⟩
  · rintro ⟨rfl, rfl, rfl⟩
    exact .done

theorem run_act_iff {x : Act β} {next : β → Program Act α} {trace : Trace Act} {a : α} :
    Run rule s (.act x next) trace a u ↔
      ∃ b t rest, trace = ⟨β, x, b⟩ :: rest ∧ rule β s x b t ∧ Run rule t (next b) rest a u := by
  constructor
  · rintro (_ | ⟨step, rest⟩)
    exact ⟨_, _, _, rfl, step, rest⟩
  · rintro ⟨b, t, rest, rfl, step, run⟩
    exact .act step run

/-- A run of two programs in a row is a run of the one and then a run of the other. -/
theorem run_bind_iff {p : Program Act α} {f : α → Program Act β} {trace : Trace Act} {b : β} :
    Run rule s (p.bind f) trace b u ↔
      ∃ first second a t, trace = first ++ second ∧ Run rule s p first a t ∧
        Run rule t (f a) second b u := by
  induction p generalizing s trace with
  | done a =>
    simp only [bind, run_done_iff]
    constructor
    · intro run
      exact ⟨[], trace, a, s, rfl, ⟨rfl, rfl, rfl⟩, run⟩
    · rintro ⟨_, second, _, _, rfl, ⟨rfl, rfl, rfl⟩, run⟩
      exact run
  | act x next ih =>
    simp only [bind, run_act_iff, ih]
    constructor
    · rintro ⟨c, t, _, rfl, step, first, second, a, v, rfl, run, rest⟩
      exact ⟨⟨_, x, c⟩ :: first, second, a, v, rfl, ⟨c, t, first, rfl, step, run⟩, rest⟩
    · rintro ⟨_, second, a, v, rfl, ⟨c, t, first, rfl, step, run⟩, rest⟩
      exact ⟨c, t, first ++ second, rfl, step, first, second, a, v, rfl, run, rest⟩

namespace Reaches

variable {m m' m'' : Moment Act σ} {p q r : Program Act α}

theorem trans (first : Reaches rule m p m' q) (second : Reaches rule m' q m'' r) :
    Reaches rule m p m'' r := by
  induction second with
  | start => exact first
  | act _ step ih => exact ih.act step

theorem bind (run : Reaches rule m p m' q) (f : α → Program Act β) :
    Reaches rule m (p.bind f) m' (q.bind f) := by
  induction run with
  | start => exact .start
  | act _ step ih => exact ih.act step

/-- What is left of a program is run to the end of the whole. -/
theorem run (reached : Reaches rule m p m' q) {trace : Trace Act} {a : α}
    (rest : Run rule m'.state q trace a u) :
    ∃ since, m'.past = since ++ m.past ∧ Run rule m.state p (since.reverse ++ trace) a u := by
  induction reached generalizing trace with
  | start => exact ⟨[], rfl, rest⟩
  | @act m' β x next b t _ step ih =>
    obtain ⟨since, past, whole⟩ := ih (.act step rest)
    refine ⟨⟨β, x, b⟩ :: since, congrArg _ past, ?_⟩
    rwa [List.reverse_cons, List.append_assoc]

end Reaches

end Program

end BuildDispatch
