import BuildDispatch.Proofs.Scheduler.Race

/-!
Of the triggers of a pipeline one at a time is carried out, however they race, so that the labels of
its runs are `1`, `2`, `3` and so on and every job has the label of its cause
(`Race.one_at_a_time`).
-/
namespace BuildDispatch

namespace Race

/-- A cause that was saved, or whose jobs are being made. -/
def Known (s : Session Race) (c : BuildCause) : Prop :=
  c ∈ s.log.filterMap (·.answer) ∨ ∃ i, (s.state.progress i).cause? = some c

theorem known_call (s : Session Race) (i : Nat) (now : Timestamp) (c : BuildCause) :
    Known (s.call ⟨i, now⟩) c ↔ c ∈ s.log.filterMap (·.answer) ∨
      (s.state.progress i).saving? = some c ∨
      (s.state.scheduler.advance (s.state.calls i) now (s.state.progress i)).1.cause? = some c ∨
      ∃ k ≠ i, (s.state.progress k).cause? = some c := by
  have making : (∃ k, ((s.call ⟨i, now⟩).state.progress k).cause? = some c) ↔
      (s.state.scheduler.advance (s.state.calls i) now (s.state.progress i)).1.cause? = some c ∨
        ∃ k ≠ i, (s.state.progress k).cause? = some c := by
    change (∃ k, ((s.state.put i _ _).progress k).cause? = some c) ↔ _
    constructor
    · rintro ⟨k, hc⟩
      by_cases hk : k = i
      · subst hk
        rw [progress_put_self] at hc
        exact .inl hc
      · rw [progress_put_of_ne _ hk] at hc
        exact .inr ⟨k, hk, hc⟩
    · rintro (hc | ⟨k, hk, hc⟩)
      · exact ⟨i, by rwa [progress_put_self]⟩
      · exact ⟨k, by rwa [progress_put_of_ne _ hk]⟩
  have log : (s.call ⟨i, now⟩).log.filterMap (·.answer) =
      s.log.filterMap (·.answer) ++ (s.state.progress i).saving?.toList :=
    s.filterMap_log_call ⟨i, now⟩ _
  unfold Known
  rw [making, log, List.mem_append, Option.mem_toList, or_assoc]

/-- A job of a run has the label of the cause that lists it. -/
structure Owns (c : BuildCause) (id : BuildId) (j : Job) : Prop where
  listed : id ∈ c.jobs
  pipeline : j.ref.pipeline = c.pipeline
  label : j.ref.label = c.label

/-- Every job is owned by a cause, and as long as there are `Few` jobs each cause owns its own. -/
structure Made (s : Session Race) : Prop where
  numbered : s.state.scheduler.board.Few → s.state.scheduler.board.Numbered
  owned : ∀ id j, s.state.scheduler.board.get? id = some j → ∃ c, Known s c ∧ Owns c id j
  stored : s.state.scheduler.board.Few → ∀ c, Known s c → ∀ id ∈ c.jobs,
    ∃ j, s.state.scheduler.board.get? id = some j ∧ Owns c id j

namespace Made

variable {s : Session Race} (h : Made s) {i : Nat} (now : Timestamp)
include h

theorem call_of_made {c : BuildCause} {stage : Stage} {j : JobTemplate} {left : List JobTemplate}
    (ready : s.state.progress i = .making c stage (j :: left)) : Made (s.call ⟨i, now⟩) := by
  let b := s.state.scheduler.board
  let longer := { c with jobs := c.jobs ++ [b.nextId] }
  have scheduler : (s.call ⟨i, now⟩).state.scheduler =
      (s.state.scheduler.createJob c stage.name j now).2 := by
    change (s.state.scheduler.advance _ now (s.state.progress i)).2 = _
    rw [ready]
    rfl
  have get (id : BuildId) : (s.call ⟨i, now⟩).state.scheduler.board.get? id =
      if id = b.nextId then some (j.instantiate c stage.name id now) else b.get? id := by
    rw [scheduler]
    exact Scheduler.get?_createJob c stage.name now j id
  have known (k : BuildCause) : Known (s.call ⟨i, now⟩) k ↔ k = longer ∨
      k ∈ s.log.filterMap (·.answer) ∨ ∃ n ≠ i, (s.state.progress n).cause? = some k := by
    rw [known_call, ready]
    change _ ∨ none = some k ∨ some longer = some k ∨ _ ↔ _
    rw [Option.some_inj, eq_comm (a := longer), or_left_comm (b := k = longer)]
    simp [or_left_comm]
  have few (hf : (s.call ⟨i, now⟩).state.scheduler.board.Few) : b.Few := by
    rw [scheduler] at hf
    exact (Table.size_le_size_insert b.jobs b.nextId _).trans_lt hf
  constructor
  case numbered =>
    intro hf
    have before := h.numbered (few hf)
    rw [scheduler] at hf ⊢
    exact before.insertScheduled ⟨c.pipeline, c.label, stage.name, j.name, 0⟩
      (j.plan c stage.name) now hf
  case owned =>
    intro id k hk
    rw [get] at hk
    split_ifs at hk with hid
    · cases hk
      exact ⟨longer, (known _).2 (.inl rfl), by simp [longer, hid], rfl, rfl⟩
    · obtain ⟨c', known', owns⟩ := h.owned id k hk
      rcases known' with log | ⟨n, hn⟩
      · exact ⟨c', (known c').2 (.inr (.inl log)), owns⟩
      · by_cases hni : n = i
        · rw [hni, ready] at hn
          cases hn
          exact ⟨longer, (known _).2 (.inl rfl), by simp [longer, owns.listed], owns.pipeline,
            owns.label⟩
        · exact ⟨c', (known c').2 (.inr (.inr ⟨n, hni, hn⟩)), owns⟩
  case stored =>
    intro hf c' known' id hid
    have numbered := h.numbered (few hf)
    -- What stood on the board keeps its number.
    have keeps (k : BuildCause) (hk : Known s k) (listed : id ∈ k.jobs) :
        ∃ j, (s.call ⟨i, now⟩).state.scheduler.board.get? id = some j ∧ Owns k id j := by
      obtain ⟨j', stored, owns⟩ := h.stored (few hf) k hk id listed
      refine ⟨j', ?_, owns⟩
      rw [get, if_neg (numbered.ne_nextId stored)]
      exact stored
    rcases (known c').1 known' with rfl | log | ⟨n, -, hn⟩
    · rcases List.mem_append.1 hid with old | new
      · obtain ⟨j', stored, owns⟩ := keeps c (.inr ⟨i, by rw [ready]; rfl⟩) old
        exact ⟨j', stored, hid, owns.pipeline, owns.label⟩
      · have here : id = b.nextId := List.mem_singleton.1 new
        exact ⟨_, by rw [get, if_pos here], hid, rfl, rfl⟩
    · exact keeps c' (.inl log) hid
    · exact keeps c' (.inr ⟨n, hn⟩) hid

theorem call (x : Step Nat) : Made (s.call x) := by
  obtain ⟨i, now⟩ := x
  have e := s.state.scheduler.advance_spec (s.state.calls i) now (s.state.progress i)
  have scheduler : (s.call ⟨i, now⟩).state.scheduler =
    (s.state.scheduler.advance (s.state.calls i) now (s.state.progress i)).2 := rfl
  rcases e.makes_or_keeps with ⟨c, stage, j, left, ready, -, -⟩ | ⟨jobs, next, saved, fresh⟩
  · exact h.call_of_made now ready
  have same (id : BuildId) : (s.call ⟨i, now⟩).state.scheduler.board.get? id =
      s.state.scheduler.board.get? id := congrArg (Table.get? · id) jobs
  have few (hf : (s.call ⟨i, now⟩).state.scheduler.board.Few) :
      s.state.scheduler.board.Few := (congrArg Table.size jobs).symm.trans_lt hf
  constructor
  case numbered =>
    intro hf
    have numbered := h.numbered (few hf)
    constructor
    · rw [scheduler, next, jobs]
      exact numbered.next
    · intro id
      rw [scheduler, jobs]
      exact numbered.used id
  case owned =>
    intro id j hj
    rw [same] at hj
    obtain ⟨c, known, owns⟩ := h.owned id j hj
    refine ⟨c, (known_call s i now c).2 ?_, owns⟩
    rcases known with log | ⟨k, hk⟩
    · exact .inl log
    · by_cases hki : k = i
      · exact .inr (.inl (saved c (hki ▸ hk)))
      · exact .inr (.inr (.inr ⟨k, hki, hk⟩))
  case stored =>
    intro hf c known id hid
    rw [same]
    rcases (known_call s i now c).1 known with log | ready | started | ⟨k, -, hk⟩
    · exact h.stored (few hf) c (.inl log) id hid
    · exact h.stored (few hf) c (.inr ⟨i, Progress.cause?_of_saving? ready⟩) id hid
    · rw [fresh c started] at hid
      cases hid
    · exact h.stored (few hf) c (.inr ⟨k, hk⟩) id hid

end Made

theorem made_session (config : Config) (calls : Nat → Trigger) (steps : List (Step Nat)) :
    Made (session config calls steps) := by
  refine Session.run_keeps (fun s x h => h.call x) ⟨?_, ?_, ?_⟩ steps
  · exact fun _ => Board.numbered_empty
  · intro id j hj
    cases hj
  · rintro - c (log | ⟨i, hi⟩)
    · cases log
    · cases hi

/-- The answer that goes with a cause, if it was this trigger that saved it. -/
def savedBy? (i : Nat) (e : Entry Nat (Option BuildCause)) : Option ScheduleOutcome :=
  if e.call = i then e.answer.map BuildCause.outcome else none

/-- A trigger saves one cause if it is answered `scheduled`, with that answer, and else none. -/
theorem saved_session (config : Config) (calls : Nat → Trigger) (steps : List (Step Nat))
    (i : Nat) : (session config calls steps).log.filterMap (savedBy? i) =
      ((session config calls steps).state.progress i).scheduled?.toList := by
  refine Session.run_keeps (P := fun s : Session Race =>
    s.log.filterMap (savedBy? i) = (s.state.progress i).scheduled?.toList) ?_ rfl steps
  intro s x ih
  obtain ⟨k, now⟩ := x
  have e := s.state.scheduler.advance_spec (s.state.calls k) now (s.state.progress k)
  rw [Session.filterMap_log_call, ih]
  change _ ++ Option.toList (if k = i then (s.state.progress k).saving?.map BuildCause.outcome
    else none) = ((s.state.put k _ _).progress i).scheduled?.toList
  by_cases hk : k = i
  · subst hk
    rw [if_pos rfl, progress_put_self]
    exact e.scheduled?_eq.symm
  · rw [if_neg hk, progress_put_of_ne _ (Ne.symm hk)]
    exact List.append_nil _

/-- What stays as it was given, and that a pipeline in flight is configured. -/
structure Configured (r : Race) (config : Config) (calls : Nat → Trigger) : Prop where
  config_eq : r.scheduler.config = config
  calls_eq : r.calls = calls
  found : ∀ i, (r.progress i).isInside = true → (config.pipeline? (calls i).pipeline).isSome = true

theorem configured_session (config : Config) (calls : Nat → Trigger) (steps : List (Step Nat)) :
    (session config calls steps).state.Configured config calls := by
  refine Session.run_keeps (P := fun s : Session Race => s.state.Configured config calls)
    ?_ ⟨rfl, rfl, fun i inside => by cases inside⟩ steps
  intro s x h
  obtain ⟨i, now⟩ := x
  have e := s.state.scheduler.advance_spec (s.state.calls i) now (s.state.progress i)
  constructor
  · exact e.config_eq.trans h.config_eq
  · exact h.calls_eq
  · intro k inside
    rcases (isInside_put _ i _ _ k).1 inside with ⟨rfl, entered⟩ | ⟨-, was⟩
    · rcases e.found entered with was | found
      · exact h.found k was
      · rwa [h.config_eq, h.calls_eq] at found
    · exact h.found k was

theorem run_alone (s : Session Race) (i n : Nat) (now : Timestamp) :
    (s.run (List.replicate n ⟨i, now⟩)).state = s.state.put i
      ((Scheduler.step (s.state.calls i) now)^[n] (s.state.progress i, s.state.scheduler)).1
      ((Scheduler.step (s.state.calls i) now)^[n] (s.state.progress i, s.state.scheduler)).2 := by
  induction n generalizing s with
  | zero =>
    change s.state =
      Race.mk s.state.calls s.state.scheduler (Function.update s.state.progress i _)
    rw [Function.iterate_zero_apply, Function.update_eq_self]
  | succ n ih =>
    let x := Scheduler.step (s.state.calls i) now (s.state.progress i, s.state.scheduler)
    have first : (s.call ⟨i, now⟩).state = s.state.put i x.1 x.2 := rfl
    rw [List.replicate_succ, Session.run_cons, ih, first, put_put, progress_put_self,
      Function.iterate_succ_apply]
    rfl

theorem proceed_of_inside {r : Race} {config : Config} {calls : Nat → Trigger}
    (exclusive : r.Exclusive) (configured : r.Configured config calls) (now : Timestamp)
    {i k : Nat} (asked : r.progress i = .asked) (inside : (r.progress k).isInside = true)
    (same : (calls i).pipeline = (calls k).pipeline) : r.proceed now i =
      (none, r.put i (.answered (.alreadyInFlight (calls i).pipeline)) r.scheduler) := by
  have calls_eq := configured.calls_eq
  have marked : r.scheduler.inFlight.contains (calls i).pipeline = true :=
    (exclusive.marked _).2 ⟨k, inside, by rw [calls_eq, same]⟩
  obtain ⟨p, found⟩ := Option.isSome_iff_exists.1 (same ▸ configured.found k inside)
  have closed : r.scheduler.enter (calls i) = .error (.alreadyInFlight (calls i).pipeline) := by
    unfold Scheduler.enter
    rw [configured.config_eq, found]
    dsimp only
    rw [if_pos marked]
  have step : r.scheduler.advance (calls i) now .asked =
      (.answered (.alreadyInFlight (calls i).pipeline), r.scheduler) := by
    unfold Scheduler.advance
    rw [closed]
  unfold proceed
  rw [asked, calls_eq, step]
  rfl

theorem proceed_of_answered {r : Race} {i : Nat} {outcome : ScheduleOutcome} (now : Timestamp)
    (answered : r.progress i = .answered outcome) : r.proceed now i = (none, r) := by
  unfold proceed
  rw [answered]
  change (none, Race.mk _ _ (Function.update r.progress i (.answered outcome))) = _
  rw [← answered, Function.update_eq_self]

theorem Exclusive.free {r : Race} (h : r.Exclusive) (outside : ∀ i, (r.progress i).isInside = false)
    (q : String) : r.scheduler.inFlight.contains q = false := by
  by_contra marked
  obtain ⟨i, inside, -⟩ := (h.marked q).1 (by simpa using marked)
  rw [outside] at inside
  cases inside

theorem answered_alone (s : Session Race) {i : Nat} (now : Timestamp)
    (asked : s.state.progress i = .asked) : ∃ n, (s.run (List.replicate n ⟨i, now⟩)).state =
      s.state.put i (.answered (s.state.scheduler.trigger (s.state.calls i) now).1)
        (s.state.scheduler.trigger (s.state.calls i) now).2 := by
  obtain ⟨n, alone⟩ := s.state.scheduler.iterate_step_trigger (s.state.calls i) now
  refine ⟨n, ?_⟩
  rw [run_alone, asked, alone]

/--
However the triggers interleave, one of a pipeline at most is in flight, and another that is asked
meanwhile is turned away and does nothing. The labels of the causes, in the order in
which they are saved, are `1`, `2`, `3` and so on, and each is saved by the trigger whose answer it
is. A job has the label of its cause. When no trigger is in flight nothing is marked, and one that
then runs alone is answered as if there were no others.
-/
theorem one_at_a_time (config : Config) (calls : Nat → Trigger) (steps : List (Step Nat)) :
    let s := session config calls steps
    let r := s.state
    let b := r.scheduler.board
    (∀ i k, (r.progress i).isInside = true → (r.progress k).isInside = true →
      (calls i).pipeline = (calls k).pipeline → i = k) ∧
    (∀ i k now, r.progress i = .asked → (r.progress k).isInside = true →
      (calls i).pipeline = (calls k).pipeline → r.proceed now i =
        (none, r.put i (.answered (.alreadyInFlight (calls i).pipeline)) r.scheduler)) ∧
    (∀ i now outcome, r.progress i = .answered outcome → r.proceed now i = (none, r)) ∧
    (∀ q, (labels q s.log).length < 2 ^ 64 →
      labels q s.log = (List.range (labels q s.log).length).map fun n => Text.decimal (n + 1)) ∧
    (∀ i, s.log.filterMap (savedBy? i) = (r.progress i).scheduled?.toList) ∧
    (∀ id j, b.get? id = some j → ∃ c, Known s c ∧ Owns c id j) ∧
    (b.Few → ∀ c, Known s c → ∀ id ∈ c.jobs, ∃ j, b.get? id = some j ∧ Owns c id j) ∧
    ((∀ i, (r.progress i).isInside = false) → r.scheduler.inFlight = ∅ ∧
      ∀ i now, r.progress i = .asked →
        (∀ q, (r.scheduler.trigger (calls i) now).1 ≠ .alreadyInFlight q) ∧
        ∃ n, (s.run (List.replicate n ⟨i, now⟩)).state =
          r.put i (.answered (r.scheduler.trigger (calls i) now).1)
            (r.scheduler.trigger (calls i) now).2) := by
  intro s r b
  have exclusive : r.Exclusive := exclusive_session config calls steps
  have configured : r.Configured config calls := configured_session config calls steps
  have counted : Counted s := counted_session config calls steps
  have made : Made s := made_session config calls steps
  have same : r.calls = calls := configured.calls_eq
  refine ⟨?_, ?_, fun i now _ answered => proceed_of_answered now answered, counted.numbered,
    saved_session config calls steps, made.owned, made.stored, ?_⟩
  · intro i k hi hk
    rw [← same]
    exact exclusive.one i k hi hk
  · intro i k now asked inside pipeline
    exact proceed_of_inside exclusive configured now asked inside pipeline
  · intro outside
    have free := exclusive.free outside
    refine ⟨Table.eq_empty_of_contains free, fun i now asked => ⟨fun q => ?_, ?_⟩⟩
    · exact r.scheduler.trigger_ne_alreadyInFlight now (free (calls i).pipeline) q
    · rw [← same]
      exact answered_alone s now asked

def workshop : Config :=
  ⟨true, .unrestricted, [⟨"site", [], [⟨"repo", "/repo"⟩], ∅,
    [⟨"build", [⟨"compile", [], []⟩, ⟨"test", [], []⟩]⟩]⟩]⟩

theorem one_at_a_time_overlap :
    let s := session workshop (fun _ => .material "site" [⟨"repo", "r1"⟩]) [⟨0, 5⟩, ⟨0, 5⟩, ⟨0, 6⟩]
    (s.state.scheduler.board.get? 1).isSome = true ∧ s.state.proceed 7 1 =
      (none, s.state.put 1 (.answered (.alreadyInFlight "site")) s.state.scheduler) := by
  intro s
  obtain ⟨-, turned_away, -⟩ := one_at_a_time workshop
    (fun _ => .material "site" [⟨"repo", "r1"⟩]) [⟨0, 5⟩, ⟨0, 5⟩, ⟨0, 6⟩]
  exact ⟨rfl, turned_away 1 0 7 rfl rfl rfl⟩

end Race

end BuildDispatch
