import BuildDispatch.Event
import BuildDispatch.Proofs.Board.Sound

/-!
Write-through. After every call the store holds the jobs of the board. A call stores those jobs that
it made or changed, and makes each known once, so that whoever has heard of all changes knows where
every job stands (`Board.written_through`).
-/
namespace BuildDispatch

structure JobView where
  state : JobState
  result : JobResult
  agent : Option String
  deriving DecidableEq, Repr

namespace Job

def view (j : Job) : JobView := ⟨j.state, j.result, j.agent⟩

@[simp] theorem buildId_scheduled (ref : JobRef) (plan : Plan) (now : Timestamp) :
    (scheduled ref plan now).buildId = ref.buildId := rfl

theorem ne_of_transitions {j j' : Job} {t : Transition}
    (h : j'.transitions = j.transitions ++ [t]) : j' ≠ j := by
  rintro rfl
  have hl := congrArg List.length h
  rw [List.length_append, List.length_singleton] at hl
  omega

theorem enter_ne (j : Job) (t : JobState) (now : Timestamp) : j.enter t now ≠ j :=
  ne_of_transitions rfl

theorem Moved.ne {j j' : Job} {now : Timestamp} {c : Board.Call} {a : Board.Answer}
    (m : j.Moved now c a j') : j' ≠ j := by
  cases m with
  | assigned => exact ne_of_transitions rfl
  | heard own heard => exact heard.ne
  | dropped =>
    have hw : ((j.conclude .cancelled).enter .completed now).transitions =
        j.transitions ++ [⟨.completed, now⟩] := by simp [enter]
    exact ne_of_transitions hw
  | marked begun running new =>
    intro he
    have hr := j.result_conclude_cancelled
    rw [he] at hr
    exact new hr
  | ended => exact enter_ne _ _ _

theorem Coherent.getLast?_transitions {j : Job} (h : j.Coherent) :
    j.transitions.getLast? = some ⟨j.state, j.lastStamp⟩ := by
  have hl := h.recorded.last
  unfold path at hl
  rw [List.getLast?_map] at hl
  obtain ⟨t, ht, hs⟩ := Option.map_eq_some_iff.1 hl
  have hz : j.lastStamp = t.stamp := by
    unfold lastStamp
    rw [ht]
  rw [ht, ← hs, hz]

end Job

namespace JobEvent

def view (e : JobEvent) : JobView := ⟨e.state, e.result, e.agent⟩

/-- What events tell of the jobs, the oldest event first. -/
def views (events : List JobEvent) : Table BuildId JobView :=
  .ofList (events.map fun e => (e.buildId, e.view))

theorem views_append (events more : List JobEvent) :
    views (events ++ more) = (views events).insertAll (more.map fun e => (e.buildId, e.view)) := by
  unfold views Table.ofList
  rw [List.map_append, Table.insertAll_append]

end JobEvent

namespace Board

def entriesOf (js : List Job) : List (BuildId × Job) := js.map fun j => (j.buildId, j)

theorem map_fst_entriesOf (js : List Job) : (entriesOf js).map Prod.fst = js.map Job.buildId := by
  unfold entriesOf
  rw [List.map_map]
  rfl

theorem buildId_copyOf (b : Board) (j : Job) (now : Timestamp) :
    (b.copyOf j now).buildId = b.nextId := rfl

/--
The jobs that a call made or changed, as they are then and in the order of the changes. Each is
stored and made known.
-/
structure Written (b : Board) (a : Answer) (js : List Job) (b' : Board) : Prop where
  jobs : b'.jobs = b.jobs.insertAll (entriesOf js)
  saved : b'.repository =
    { b.repository with jobs := b.repository.jobs.insertAll (entriesOf js) }
  known : b'.events = (js.map JobEvent.of).reverse ++ b.events
  renewed : ∀ id, id ∈ js.map Job.buildId ↔ a.made? = some id ∨ b'.get? id ≠ b.get? id
  distinct : js.Nodup
  /-- A job is retired before its copy is made. -/
  order : js.Pairwise fun j k =>
    j.state = .rescheduled ∧ (∃ old, b.get? j.buildId = some old) ∧ a.made? = some k.buildId

namespace Effect

variable {b b' : Board} {now : Timestamp} {c : Call} {a : Answer}

theorem written (e : b.Effect now c a b') (h : b.Coherent) :
    ∃ js, b.Written a js b' ∧ ∀ j ∈ js, j.Coherent := by
  cases e with
  | still rejections asked made given =>
    refine ⟨[], ⟨rfl, rfl, rfl, ?_, .nil, .nil⟩, by simp⟩
    intro id
    simp [made, get?]
  | @moved _ j j' stored m =>
    have hb : j.Becomes now b.nextId c a j' := .moved m
    have hj' : j'.Coherent := hb.coherent (h.jobs stored)
    refine ⟨[j'], ⟨rfl, rfl, rfl, ?_, List.nodup_singleton _, List.pairwise_singleton _ _⟩,
      by simpa using hj'⟩
    intro id
    rw [get?_commit, get?_take, m.made?_eq, List.map_singleton, m.buildId_eq]
    by_cases hid : id = j.buildId
    · have hne : j' ≠ j := m.ne
      simp [hid, stored, hne]
    · simp [hid]
  | @added r asked =>
    refine ⟨[_], ⟨rfl, rfl, rfl, ?_, List.nodup_singleton _, List.pairwise_singleton _ _⟩,
      by simpa using Job.coherent_scheduled _ _ _⟩
    intro id
    rw [get?_insertScheduled, List.map_singleton, Job.buildId_scheduled]
    by_cases hid : id = b.nextId
    · simp [hid, Answer.made?]
    · simp [hid, Ne.symm hid, Answer.made?]
  | @replaced _ j stored running r =>
    have hm : a.made? = some b.nextId := by cases r <;> rfl
    have hb : j.Becomes now b.nextId c a (j.enter .rescheduled now) := .retired running r
    have hr : (j.enter .rescheduled now).Coherent := hb.coherent (h.jobs stored)
    have hc : (b.copyOf j now).Coherent := Job.coherent_scheduled _ _ _
    have hne : j.enter .rescheduled now ≠ b.copyOf j now := by
      intro he
      cases congrArg Job.state he
    refine ⟨[j.enter .rescheduled now, b.copyOf j now], ⟨rfl, rfl, rfl, ?_, by simpa using hne,
      List.pairwise_pair.2 ⟨rfl, ⟨j, stored⟩, hm⟩⟩, by simpa using ⟨hr, hc⟩⟩
    intro id
    rw [get?_replace, hm, List.map_cons, List.map_singleton, Job.buildId_enter, buildId_copyOf]
    by_cases hn : id = b.nextId
    · simp [hn]
    · by_cases hid : id = j.buildId
      · have he : j.enter .rescheduled now ≠ j := Job.enter_ne _ _ _
        rw [if_neg hn, if_pos hid, hid, stored]
        simp [he]
      · simp [hn, hid, Ne.symm hn]

end Effect

namespace Written

variable {b b' : Board} {a : Answer} {js : List Job}

theorem stored_eq (w : b.Written a js b') (h : b.repository.jobs = b.jobs) :
    b'.repository.jobs = b'.jobs := by
  rw [w.jobs, w.saved, h]

/-- A call that makes no job and changes none stores nothing and makes nothing known. -/
theorem of_unchanged (w : b.Written a js b') (made : a.made? = none)
    (same : ∀ id, b'.get? id = b.get? id) :
    b'.repository = b.repository ∧ b'.events = b.events := by
  have hn : js.map Job.buildId = [] := by
    apply List.eq_nil_iff_forall_not_mem.2
    intro id hi
    rcases (w.renewed id).1 hi with hm | hne
    · rw [made] at hm
      cases hm
    · exact hne (same id)
  have hj : js = [] := List.map_eq_nil_iff.1 hn
  subst hj
  exact ⟨w.saved, w.known⟩

/-- As long as new jobs take numbers of their own, no number is written twice. -/
theorem nodup_buildId (w : b.Written a js b')
    (fresh : ∀ id old, b.get? id = some old → a.made? ≠ some id) :
    (js.map Job.buildId).Nodup := by
  apply List.pairwise_map.2
  apply w.order.imp
  rintro j k ⟨-, ⟨old, stored⟩, made⟩ he
  rw [← he] at made
  exact fresh _ _ stored made

theorem get?_of_mem (w : b.Written a js b') (distinct : (js.map Job.buildId).Nodup) {j : Job}
    (hj : j ∈ js) : b'.get? j.buildId = some j := by
  unfold get?
  rw [w.jobs]
  rw [← map_fst_entriesOf] at distinct
  have hm : (j.buildId, j) ∈ entriesOf js := List.mem_map.2 ⟨j, hj, rfl⟩
  exact Table.get?_insertAll_of_mem distinct hm b.jobs

/-- Whoever knew where all jobs stood knows it again once the new events are heard. -/
theorem views_eq (w : b.Written a js b')
    (h : ∀ id, (JobEvent.views b.events.reverse).get? id = (b.get? id).map Job.view)
    (id : BuildId) :
    (JobEvent.views b'.events.reverse).get? id = (b'.get? id).map Job.view := by
  have hj : (js.map JobEvent.of).map (fun e => (e.buildId, e.view)) =
      (entriesOf js).map fun e => (e.1, e.2.view) := by
    unfold entriesOf
    rw [List.map_map, List.map_map]
    rfl
  rw [w.known, List.reverse_append, List.reverse_reverse, JobEvent.views_append, hj,
    Table.get?_insertAll_map Job.view h, ← w.jobs]
  rfl

end Written

/-- The store and the events of a session tell of the jobs what the board does. -/
structure Mirrored (b : Board) : Prop where
  stored : b.repository.jobs = b.jobs
  heard : ∀ id, (JobEvent.views b.events.reverse).get? id = (b.get? id).map Job.view

theorem mirrored_session (steps : List (Step Call)) : (session steps).state.Mirrored := by
  have hk : Sound (session steps) ∧ (session steps).state.Mirrored := by
    refine Session.run_keeps (P := fun s => Sound s ∧ s.state.Mirrored) ?_
      ⟨sound_session [], rfl, fun _ => rfl⟩ steps
    intro s x h
    obtain ⟨js, w, -⟩ := (h.1.coherent.perform_effect x.now x.call).written h.1.coherent
    exact ⟨h.1.call x, w.stored_eq h.2.stored, w.views_eq h.2.heard⟩
  exact hk.2

/-- What an observer is given who looks at the board after every batch of calls. -/
def deliveries (o : Observer) (s : Session Board) : List (List (Step Call)) → List Delivery
  | [] => []
  | batch :: rest =>
    let (d, o) := (s.run batch).state.drain o
    d :: deliveries o (s.run batch) rest

theorem Sound.events_suffix {s : Session Board} (h : Sound s) (steps : List (Step Call)) :
    s.state.events <:+ (s.run steps).state.events := by
  have hk : Sound (s.run steps) ∧ s.state.events <:+ (s.run steps).state.events := by
    refine Session.run_keeps (P := fun t => Sound t ∧ s.state.events <:+ t.state.events) ?_
      ⟨h, List.suffix_refl _⟩ steps
    intro t x ht
    obtain ⟨js, w, -⟩ := (ht.1.coherent.perform_effect x.now x.call).written ht.1.coherent
    refine ⟨ht.1.call x, ht.2.trans ?_⟩
    rw [state_call, w.known]
    exact List.suffix_append _ _
  exact hk.2

/-- An observer who missed nothing is given all that is new, the oldest first. -/
theorem drain_of_none_missed {b : Board} {o : Observer} {new old : List JobEvent}
    (events : b.events = new ++ old) (seen : o.seen = old.length)
    (missed : (b.drain o).1.missed = 0) :
    (b.drain o).1.events = new.reverse ∧ (b.drain o).2.seen = b.events.length := by
  have hu : b.events.length - o.seen = new.length := by
    rw [events, seen, List.length_append]
    omega
  unfold drain at missed ⊢
  dsimp only at missed ⊢
  rw [hu] at missed ⊢
  have hm : min new.length eventCapacity = new.length := by omega
  rw [hm, events, List.take_left]
  exact ⟨rfl, rfl⟩

theorem Sound.events_of_deliveries {s : Session Board} (h : Sound s) {o : Observer}
    (seen : o.seen = s.state.events.length) (batches : List (List (Step Call)))
    (missed : ∀ d ∈ deliveries o s batches, d.missed = 0) :
    s.state.events.reverse ++ (deliveries o s batches).flatMap Delivery.events =
      (s.run batches.flatten).state.events.reverse := by
  induction batches generalizing s o with
  | nil => simp [deliveries]
  | cons batch rest ih =>
    obtain ⟨new, events⟩ := h.events_suffix batch
    obtain ⟨first, missed⟩ := List.forall_mem_cons.1 missed
    obtain ⟨given, seen'⟩ := drain_of_none_missed events.symm seen first
    have hr := ih (h.run batch) seen' missed
    calc s.state.events.reverse ++ (deliveries o s (batch :: rest)).flatMap Delivery.events
        = s.state.events.reverse ++ (new.reverse ++
            (deliveries _ (s.run batch) rest).flatMap Delivery.events) := by
          rw [deliveries, List.flatMap_cons, given]
      _ = (s.run batch).state.events.reverse ++
            (deliveries _ (s.run batch) rest).flatMap Delivery.events := by
          rw [← events, List.reverse_append, List.append_assoc]
      _ = (s.run (batch :: rest).flatten).state.events.reverse := by
          rw [hr, List.flatten_cons, Session.run_append]

/--
After every call the store holds what the board holds. A call stores the jobs that it made or
changed and makes each known once, as it is then; a call that makes and changes none does neither.
An observer who was there from the start and has missed nothing knows where every job stands.
-/
theorem written_through (steps : List (Step Call)) :
    let b := (session steps).state
    (∀ id, b.repository.findJob? id = b.get? id) ∧
    (∀ x : Step Call,
      let a := (b.perform x.now x.call).1
      let b' := (b.perform x.now x.call).2
      (∃ js, b.Written a js b' ∧
        (∀ j ∈ js, j.transitions.getLast? = some ⟨j.state, j.lastStamp⟩) ∧
        ((made (session (steps ++ [x])).log).length < 2 ^ 64 - 1 →
          (js.map Job.buildId).Nodup ∧ ∀ j ∈ js, b'.get? j.buildId = some j)) ∧
      (a.made? = none → (∀ id, b'.get? id = b.get? id) →
        b'.repository = b.repository ∧ b'.events = b.events)) ∧
    (∀ id, (JobEvent.views b.events.reverse).get? id = (b.get? id).map Job.view) ∧
    ∀ batches, batches.flatten = steps →
      (∀ d ∈ deliveries empty.subscribe (.start empty) batches, d.missed = 0) →
      (deliveries empty.subscribe (.start empty) batches).flatMap Delivery.events =
        b.events.reverse := by
  intro b
  have mirrored : b.Mirrored := mirrored_session steps
  refine ⟨fun id => congrArg (fun t => t.get? id) mirrored.stored, ?_, mirrored.heard, ?_⟩
  · intro x a b'
    have h : b.Coherent := coherent_session steps
    have e : b.Effect x.now x.call a b' := h.perform_effect x.now x.call
    obtain ⟨js, w, coherent⟩ := e.written h
    refine ⟨⟨js, w, fun j hj => (coherent j hj).getLast?_transitions, fun few => ?_⟩,
      w.of_unchanged⟩
    have hn : b.Numbered := numbered_of_append few
    have distinct := w.nodup_buildId fun id old stored => e.made?_ne hn stored
    exact ⟨distinct, fun j hj => w.get?_of_mem distinct hj⟩
  · rintro batches rfl missed
    exact (sound_session []).events_of_deliveries rfl batches missed

/-- The session is looked at twice. At its end a job is rescheduled, and one cancelled again. -/
theorem written_through_relay :
    let b := (session (relay.take 5)).state
    let batches := [relay.take 2, (relay.take 5).drop 2]
    let ds := deliveries empty.subscribe (.start empty) batches
    (made (session (relay.take 5 ++ [⟨.reschedule 1, 9⟩])).log).length < 2 ^ 64 - 1 ∧
      (∃ js, b.Written (.rescheduled (.ok (some 3))) js (b.perform 9 (.reschedule 1)).2 ∧
        (js.map Job.buildId).Nodup) ∧
      (b.perform 10 (.cancel 2)).1.made? = none ∧
      (∀ id, (b.perform 10 (.cancel 2)).2.get? id = b.get? id) ∧
      (b.perform 10 (.cancel 2)).2.events = b.events ∧
      batches.flatten = relay.take 5 ∧ (∀ d ∈ ds, d.missed = 0) ∧
      ds.flatMap Delivery.events = b.events.reverse := by
  intro b batches ds
  obtain ⟨-, call, -, observer⟩ := written_through (relay.take 5)
  have few : (made (session (relay.take 5 ++ [⟨.reschedule 1, 9⟩])).log).length < 2 ^ 64 - 1 := by
    decide
  have same : ∀ id, (b.perform 10 (.cancel 2)).2.get? id = b.get? id := fun _ => rfl
  have missed : ∀ d ∈ ds, d.missed = 0 := by decide
  obtain ⟨⟨js, w, -, apart⟩, -⟩ := call ⟨.reschedule 1, 9⟩
  obtain ⟨-, still⟩ := call ⟨.cancel 2, 10⟩
  exact ⟨few, ⟨js, w, (apart few).1⟩, rfl, same, (still rfl same).2, rfl, missed,
    observer batches rfl missed⟩

end Board

end BuildDispatch
