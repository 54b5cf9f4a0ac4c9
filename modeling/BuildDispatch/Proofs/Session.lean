import BuildDispatch.Clock

/-! Sessions: a state together with the calls on it so far. What a call keeps, a session keeps. -/
namespace BuildDispatch

/-- A state that answers calls, each at a reading of the clock. -/
class Responder (σ : Type) (κ α : outParam Type) where
  respond : σ → Timestamp → κ → α × σ

structure Step (κ : Type) where
  call : κ
  now : Timestamp

structure Entry (κ α : Type) extends Step κ where
  answer : α

/-- A state, and every call so far with its answer, the oldest first. -/
structure Session (σ : Type) {κ α : Type} [Responder σ κ α] where
  log : List (Entry κ α)
  state : σ

namespace Session

variable {σ κ α : Type} [Responder σ κ α]

def start (state : σ) : Session σ := ⟨[], state⟩

def call (s : Session σ) (x : Step κ) : Session σ :=
  let (answer, state) := Responder.respond s.state x.now x.call
  ⟨s.log ++ [⟨x, answer⟩], state⟩

def run (s : Session σ) (steps : List (Step κ)) : Session σ := steps.foldl call s

variable (s : Session σ) (x : Step κ) (steps later : List (Step κ))

theorem log_call :
    (s.call x).log = s.log ++ [⟨x, (Responder.respond s.state x.now x.call).1⟩] := rfl

/-- What is read off the log grows by what is read off the last call. -/
theorem filterMap_log_call {β : Type} (f : Entry κ α → Option β) :
    (s.call x).log.filterMap f = s.log.filterMap f ++
      (f ⟨x, (Responder.respond s.state x.now x.call).1⟩).toList := by
  rw [log_call, List.filterMap_append]
  cases h : f ⟨x, (Responder.respond s.state x.now x.call).1⟩ <;> simp [h]

/-- What is read off the log last is read off the last call, or was so before. -/
theorem getLast?_filterMap_call {β : Type} (f : Entry κ α → Option β) :
    ((s.call x).log.filterMap f).getLast? =
      (f ⟨x, (Responder.respond s.state x.now x.call).1⟩).or (s.log.filterMap f).getLast? := by
  rw [filterMap_log_call]
  cases f ⟨x, (Responder.respond s.state x.now x.call).1⟩ <;> simp

@[simp] theorem run_nil : s.run [] = s := rfl

@[simp] theorem run_cons : s.run (x :: steps) = (s.call x).run steps := rfl

theorem run_append : s.run (steps ++ later) = (s.run steps).run later := List.foldl_append

theorem run_concat : s.run (steps ++ [x]) = (s.run steps).call x := by
  rw [run_append, run_cons, run_nil]

/-- What every call keeps, a session keeps. -/
theorem run_keeps {P : Session σ → Prop} (keeps : ∀ s x, P s → P (s.call x)) {s : Session σ}
    (h : P s) (steps : List (Step κ)) : P (s.run steps) := by
  induction steps generalizing s with
  | nil => exact h
  | cons x rest ih => exact ih (keeps s x h)

/-- The calls in the log are those that were made. -/
theorem log_run : (s.run steps).log.map Entry.toStep = s.log.map Entry.toStep ++ steps := by
  induction steps generalizing s with
  | nil => simp
  | cons x rest ih =>
    rw [run_cons, ih, log_call]
    simp

theorem map_log_run {β : Type} (f : Step κ → β) (state : σ) :
    ((start state).run steps).log.map (fun e => f e.toStep) = steps.map f := by
  have hl : ((start state).run steps).log.map Entry.toStep = steps := log_run (start state) steps
  have hm := congrArg (List.map f) hl
  rw [List.map_map] at hm
  exact hm

theorem log_prefix_run : s.log <+: (s.run steps).log := by
  refine run_keeps (P := fun t => s.log <+: t.log) ?_ (List.prefix_refl _) steps
  intro t x h
  exact h.trans (List.prefix_append _ _)

end Session

end BuildDispatch
