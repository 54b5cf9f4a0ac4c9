import BuildDispatch.Proofs.Roster.Changes
import Mathlib.Data.List.Chain

/-!
The trail of a run: all changes of status that its calls make. The changes of one agent are linked
each to the one before, up to the status that the agent has, and what a roster keeps is the end of
the trail (`Roster.trail_faithful`).
-/
namespace BuildDispatch.Roster

/-- All changes of status that these operations make, the oldest first. -/
def trail (r : Roster) : List (Step Operation) → List StatusChange
  | [] => []
  | x :: rest =>
    let r' := (r.perform x.now x.call).2
    r.changes r' x.now ++ r'.trail rest

/-- The second change takes an agent on from where the first has left it. -/
def Follows (c d : StatusChange) : Prop := d.former = some c.status ∧ d.status ≠ c.status

instance : DecidableRel Follows := fun _ _ => inferInstanceAs (Decidable (_ ∧ _))

/-- The changes of an agent's status, the oldest first: from its registration to a status. -/
structure Linked (own : List StatusChange) (status : Option AgentStatus) : Prop where
  first : ∀ c, own.head? = some c → c.former = none
  links : own.IsChain Follows
  last : own.getLast?.map (·.status) = status

section Linked

variable {own : List StatusChange} {former : Option AgentStatus}

theorem linked_nil : Linked [] none := ⟨fun _ h => (by cases h), .nil, rfl⟩

/-- A change, if there is one, is linked to those before. -/
theorem Linked.change (h : Linked own former) (uuid : String) (status : AgentStatus)
    (now : Timestamp) :
    Linked (own ++ (change? uuid former status now).toList) (some status) := by
  obtain ⟨first, links, last⟩ := h
  unfold change?
  split_ifs with same
  · rw [Option.toList_none, List.append_nil, ← same]
    exact ⟨first, links, last⟩
  · refine ⟨?_, ?_, by rw [Option.toList_some, List.getLast?_concat]; rfl⟩
    · intro c hc
      cases own with
      | nil =>
        cases hc
        exact last.symm
      | cons d rest => exact first c hc
    · refine List.isChain_append.2 ⟨links, .singleton _, ?_⟩
      intro c hc d hd
      cases hd
      rw [hc] at last
      refine ⟨last.symm, fun hs => same ?_⟩
      exact last.symm.trans (congrArg some hs.symm)

/-- An agent that was on the roster still is, and its changes are linked. -/
theorem Linked.perform {r : Roster} {uuid : String} (h : Linked own (r.status? uuid))
    (x : Step Operation) :
    let r' := (r.perform x.now x.call).2
    Linked (own ++ (r.changes r' x.now).filter (·.uuid = uuid)) (r'.status? uuid) := by
  intro r'
  rw [filter_changes]
  unfold changeOf?
  cases after : r'.status? uuid with
  | some status => exact h.change uuid status x.now
  | none =>
    -- Nobody leaves the roster.
    have unknown : r.status? uuid = none := by
      by_contra known
      have still := r.isSome_get?_after x.now
        (by simpa [status?, Option.isSome_iff_ne_none] using known) x.call.call
      have gone : (r.after x.now x.call.call).status? uuid = none := by
        rw [← perform_snd]
        exact after
      simp [status?, Option.isSome_iff_ne_none] at still gone
      exact still gone
    rw [Option.bind_none, Option.toList_none, List.append_nil, ← unknown]
    exact h

theorem Linked.run {s : Session Roster} {uuid : String} (h : Linked own (s.state.status? uuid))
    (steps : List (Step Operation)) :
    Linked (own ++ (s.state.trail steps).filter (·.uuid = uuid))
      ((s.run steps).state.status? uuid) := by
  induction steps generalizing s own with
  | nil => rwa [trail, List.filter_nil, List.append_nil]
  | cons x rest ih =>
    have later := ih (s := s.call x) (h.perform x)
    rw [List.append_assoc, ← List.filter_append] at later
    exact later

end Linked

theorem Kept.run {s : Session Roster} {before : List StatusChange} (h : s.state.Kept before)
    (steps : List (Step Operation)) :
    (s.run steps).state.Kept (before ++ s.state.trail steps) := by
  induction steps generalizing s before with
  | nil => rwa [trail, List.append_nil]
  | cons x rest ih =>
    have now := kept_after h x.now x.call.call
    rw [← perform_snd] at now
    have later := ih (s := s.call x) now
    rw [List.append_assoc] at later
    exact later

theorem kept_session (autoRegister : Bool) (steps : List (Step Operation)) :
    (session autoRegister steps).state.Kept ((new autoRegister).trail steps) := by
  have empty : (new autoRegister).Kept [] := rfl
  exact empty.run (s := .start (new autoRegister)) steps

/-- Changes carry the reading of the clock at which they are made. -/
theorem stamp_of_mem_changes {r r' : Roster} {now : Timestamp} {c : StatusChange}
    (h : c ∈ r.changes r' now) : c.stamp = now := by
  obtain ⟨uuid, -, h⟩ := List.mem_filterMap.1 h
  obtain ⟨status, -, h⟩ := Option.bind_eq_some_iff.1 h
  unfold change? at h
  split_ifs at h
  cases h
  rfl

theorem stamp_of_mem_trail {r : Roster} {steps : List (Step Operation)} {c : StatusChange}
    (h : c ∈ r.trail steps) : ∃ x ∈ steps, x.now = c.stamp := by
  induction steps generalizing r with
  | nil => cases h
  | cons x rest ih =>
    rcases List.mem_append.1 h with h | h
    · exact ⟨x, List.mem_cons_self, (stamp_of_mem_changes h).symm⟩
    · obtain ⟨y, hy, same⟩ := ih h
      exact ⟨y, List.mem_cons_of_mem _ hy, same⟩

theorem stamps_ordered (r : Roster) {steps : List (Step Operation)}
    (clock : (steps.map (·.now)).Pairwise (· ≤ ·)) :
    ((r.trail steps).map (·.stamp)).Pairwise (· ≤ ·) := by
  rw [List.pairwise_map] at clock ⊢
  induction steps generalizing r with
  | nil => exact .nil
  | cons x rest ih =>
    obtain ⟨later, clock⟩ := List.pairwise_cons.1 clock
    refine List.pairwise_append.2 ⟨?_, ih _ clock, ?_⟩
    · refine List.pairwise_of_forall_mem_list fun c hc d hd => ?_
      rw [stamp_of_mem_changes hc, stamp_of_mem_changes hd]
      exact UInt64.le_refl _
    · intro c hc d hd
      obtain ⟨y, hy, stamp⟩ := stamp_of_mem_trail hd
      rw [stamp_of_mem_changes hc, ← stamp]
      exact later y hy

theorem Kept.history_perform {r : Roster} {trail : List StatusChange} (h : r.Kept trail)
    (x : Step Operation) :
    let r' := (r.perform x.now x.call).2
    r'.history = ((r.changes r' x.now).reverse ++ r.history).take historyLimit := by
  intro r'
  have after := kept_after h x.now x.call.call
  rw [← perform_snd] at after
  calc r'.history = (trail ++ r.changes r' x.now).reverse.take historyLimit := after
    _ = ((r.changes r' x.now).reverse ++ trail.reverse.take historyLimit).take historyLimit := by
      rw [List.reverse_append, List.take_append, List.take_append, List.take_take]
      congr 2
      omega
    _ = ((r.changes r' x.now).reverse ++ r.history).take historyLimit := by rw [h]

/-- The end of a trail that leads to a status leads there too. -/
theorem Linked.getLast?_of_suffix {own kept : List StatusChange} {status : Option AgentStatus}
    (h : Linked own status) (suffix : kept <:+ own) (nonempty : kept ≠ []) :
    kept.getLast?.map (·.status) = status := by
  obtain ⟨evicted, rfl⟩ := suffix
  have last := h.last
  rw [List.getLast?_append_of_ne_nil _ nonempty] at last
  exact last

/--
Every change of status is recorded, and nothing else is. The changes of an agent are linked each to
the one before and lead to the status of the agent. The roster keeps the end of the trail, so that
the changes of an agent that it keeps have no gap and lead to the status of the agent as well.
-/
theorem trail_faithful (autoRegister : Bool) (steps : List (Step Operation)) :
    let r := (session autoRegister steps).state
    let trail := (new autoRegister).trail steps
    let kept := trail.drop (trail.length - historyLimit)
    (∀ earlier x later, steps = earlier ++ x :: later →
      let before := (session autoRegister earlier).state
      let after := (session autoRegister (earlier ++ [x])).state
      after.history =
        ((before.changes after x.now).reverse ++ before.history).take historyLimit) ∧
    (∀ uuid, Linked (trail.filter (·.uuid = uuid)) (r.status? uuid)) ∧
    ((steps.map (·.now)).Pairwise (· ≤ ·) → (trail.map (·.stamp)).Pairwise (· ≤ ·)) ∧
    r.history.reverse = kept ∧ kept.length = min trail.length historyLimit ∧
    ∀ uuid, r.historyOf uuid = kept.filter (·.uuid = uuid) ∧
      r.historyOf uuid <:+ trail.filter (·.uuid = uuid) ∧
      (r.historyOf uuid).IsChain Follows ∧
      (r.historyOf uuid ≠ [] → (r.historyOf uuid).getLast?.map (·.status) = r.status? uuid) := by
  intro r trail kept
  have linked (uuid : String) : Linked (trail.filter (·.uuid = uuid)) (r.status? uuid) :=
    linked_nil.run (s := .start (new autoRegister)) steps
  have whole : r.history.reverse = kept := by
    rw [kept_session autoRegister steps, List.reverse_take, List.reverse_reverse,
      List.length_reverse]
  refine ⟨?_, linked, stamps_ordered _, whole, ?_, fun uuid => ?_⟩
  · rintro earlier x later -
    rw [session_concat]
    exact (kept_session autoRegister earlier).history_perform x
  · rw [List.length_drop]
    omega
  · have own : r.historyOf uuid = kept.filter (·.uuid = uuid) := by
      rw [historyOf, ← whole, List.filter_reverse]
    have suffix : r.historyOf uuid <:+ trail.filter (·.uuid = uuid) := by
      rw [own]
      exact (List.drop_suffix _ _).filter _
    exact ⟨own, suffix, (linked uuid).links.suffix suffix,
      (linked uuid).getLast?_of_suffix suffix⟩

/-- Two agents are registered, one is approved, and that one is silent for two milliseconds. -/
def approvedThenLost : List (Step Operation) :=
  [⟨.observe (.fresh ⟨"host", "10.0.0.1", "u1"⟩ "/agent"), 5⟩,
    ⟨.issueCookie ⟨"host", "10.0.0.1", "u2"⟩ "/agent" ⟨"c2"⟩, 6⟩, ⟨.approve "u1", 7⟩,
    ⟨.sweep ⟨1000000, by decide⟩, 7⟩]

theorem trail_faithful_lost :
    let r := (session false approvedThenLost).state
    let trail := (new false).trail approvedThenLost
    trail = [⟨"u1", none, .pending, 5⟩, ⟨"u2", none, .pending, 6⟩,
      ⟨"u1", some .pending, .idle, 7⟩, ⟨"u1", some .idle, .lostContact, 7⟩] ∧
    r.history.reverse = trail ∧ (trail.map (·.stamp)).Pairwise (· ≤ ·) ∧
    (r.historyOf "u1").getLast?.map (·.status) = some .lostContact := by
  intro r trail
  have entries : trail = [⟨"u1", none, .pending, 5⟩, ⟨"u2", none, .pending, 6⟩,
      ⟨"u1", some .pending, .idle, 7⟩, ⟨"u1", some .idle, .lostContact, 7⟩] := by decide
  obtain ⟨-, -, stamps, kept, -, own⟩ := trail_faithful false approvedThenLost
  obtain ⟨-, -, -, last⟩ := own "u1"
  refine ⟨entries, kept, stamps (by decide), ?_⟩
  rw [last (by decide)]
  decide

end BuildDispatch.Roster
