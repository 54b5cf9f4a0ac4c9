import BuildDispatch.Proofs.Board.Effect
import Mathlib.Algebra.Group.Nat.Defs
import Mathlib.Data.List.Induction

/-!
What holds of the board of a session. It is coherent, and as long as fewer than 2 ^ 64 - 1 jobs were
made, they have the numbers from one on (`Board.coherent_session`, `Board.numbered_session`).
-/
namespace BuildDispatch

namespace Job

/-- How a job may be found later: it keeps its names and its agent, and its end is final. -/
structure Follows (j j' : Job) : Prop where
  ref_eq : j'.ref = j.ref
  agent : ∀ {uuid}, j.agent = some uuid → j'.agent = some uuid
  ended : j.isTerminal = true → j' = j

theorem Follows.refl (j : Job) : j.Follows j := ⟨rfl, id, fun _ => rfl⟩

theorem Follows.trans {j k l : Job} (h : j.Follows k) (h' : k.Follows l) : j.Follows l where
  ref_eq := h'.ref_eq.trans h.ref_eq
  agent own := h'.agent (h.agent own)
  ended ht := by
    have hk : k = j := h.ended ht
    subst hk
    exact h'.ended ht

theorem Becomes.follows {j j' : Job} {now : Timestamp} {copy : BuildId} {c : Board.Call}
    {a : Board.Answer} (h : j.Becomes now copy c a j') (hj : j.Coherent) : j.Follows j' where
  ref_eq := h.ref_eq
  ended := h.eq_of_terminal
  agent own := by
    rcases h.agent_eq with he | ⟨_, -, -, waits, -⟩
    · rw [he, own]
    · exact absurd waits (hj.begun own)

end Job

namespace Board

/-- So few jobs that no number has to be used again. -/
def Few (b : Board) : Prop := b.jobs.size < 2 ^ 64 - 1

/-- The jobs have the numbers from one on, and the next number is the first one that is free. -/
structure Numbered (b : Board) : Prop where
  next : b.nextId.toNat = b.jobs.size + 1
  used : ∀ id, b.jobs.contains id = true ↔ 0 < id.toNat ∧ id.toNat ≤ b.jobs.size

theorem contains_of_get? {b : Board} {id : BuildId} {j : Job} (stored : b.get? id = some j) :
    b.jobs.contains id = true := Option.isSome_iff_exists.2 ⟨j, stored⟩

theorem numbered_empty : empty.Numbered where
  next := rfl
  used := by
    intro id
    constructor
    · intro h; cases h
    · intro h
      have hz : id.toNat ≤ 0 := h.2
      omega

theorem Numbered.fresh {b : Board} (h : b.Numbered) : b.get? b.nextId = none := by
  have hn : b.jobs.contains b.nextId ≠ true := by
    intro hc
    have hu := ((h.used b.nextId).1 hc).2
    have hx := h.next
    omega
  exact Option.not_isSome_iff_eq_none.1 hn

theorem Numbered.ne_nextId {b : Board} (h : b.Numbered) {id : BuildId} {j : Job}
    (stored : b.get? id = some j) : id ≠ b.nextId := by
  rintro rfl
  rw [h.fresh] at stored
  cases stored

theorem size_commit {b : Board} {j : Job} (stored : b.jobs.contains j.buildId = true) :
    (b.commit j).jobs.size = b.jobs.size := by
  change (b.jobs.insert j.buildId j).size = _
  rw [Table.size_insert, if_pos stored]

theorem Numbered.commit {b : Board} (h : b.Numbered) {j : Job}
    (stored : b.jobs.contains j.buildId = true) : (b.commit j).Numbered := by
  have hs := size_commit stored
  refine ⟨hs ▸ h.next, fun id => ?_⟩
  change (b.jobs.insert j.buildId j).contains id = true ↔ _
  rw [hs, Table.contains_insert, ← h.used id]
  by_cases hid : id = j.buildId
  · simp [hid, stored]
  · simp [hid]

theorem Numbered.size_insertScheduled {b : Board} (h : b.Numbered) (ref : JobRef) (plan : Plan)
    (now : Timestamp) : (b.insertScheduled ref plan now).2.jobs.size = b.jobs.size + 1 := by
  have hf : b.jobs.contains b.nextId = false := by
    unfold Table.contains
    rw [show b.jobs.get? b.nextId = none from h.fresh]
    rfl
  change (b.jobs.insert b.nextId _).size = _
  rw [Table.size_insert, hf]
  rfl

theorem Numbered.insertScheduled {b : Board} (h : b.Numbered) (ref : JobRef) (plan : Plan)
    (now : Timestamp) (few : (b.insertScheduled ref plan now).2.Few) :
    (b.insertScheduled ref plan now).2.Numbered := by
  have hx := h.next
  have hs := h.size_insertScheduled ref plan now
  have hb : b.jobs.size + 1 < 2 ^ 64 - 1 := hs ▸ few
  constructor
  · rw [hs]
    change (b.nextId + 1).toNat = _
    rw [UInt64.toNat_add, hx]
    exact Nat.mod_eq_of_lt (by change b.jobs.size + 1 + 1 < 2 ^ 64; omega)
  · intro id
    rw [hs]
    change (b.jobs.insert b.nextId _).contains id = true ↔ _
    rw [Table.contains_insert, Bool.or_eq_true, h.used id, decide_eq_true_iff,
      ← UInt64.toNat_inj, hx]
    omega

namespace Effect

variable {b b' : Board} {now : Timestamp} {c : Call} {a : Answer}

/-- A new job takes the number of no other. -/
theorem made?_ne (e : b.Effect now c a b') (h : b.Numbered) {id : BuildId} {j : Job}
    (stored : b.get? id = some j) : a.made? ≠ some id := by
  intro hm
  exact h.ne_nextId stored (e.eq_nextId_of_made? hm)

theorem size_le (e : b.Effect now c a b') : b.jobs.size ≤ b'.jobs.size := by
  cases e with
  | still => exact le_rfl
  | moved => exact Table.size_le_size_insert _ _ _
  | added => exact Table.size_le_size_insert _ _ _
  | replaced =>
    exact (Table.size_le_size_insert _ _ _).trans (Table.size_le_size_insert _ _ _)

theorem size_le_made (e : b.Effect now c a b') :
    b'.jobs.size ≤ b.jobs.size + a.made?.toList.length := by
  cases e with
  | still => exact Nat.le_add_right _ _
  | @moved _ j j' stored m =>
    have hc : (b.take c j.buildId).jobs.contains j'.buildId = true := by
      rw [m.buildId_eq]
      exact contains_of_get? stored
    rw [size_commit hc]
    exact Nat.le_add_right _ _
  | added =>
    change (b.jobs.insert b.nextId _).size ≤ b.jobs.size + 1
    rw [Table.size_insert]
    split <;> omega
  | @replaced _ j stored running r =>
    have hm : a.made?.toList.length = 1 := by cases r <;> rfl
    have hc : b.jobs.contains j.buildId = true := contains_of_get? stored
    change ((b.jobs.insert j.buildId (j.enter .rescheduled now)).insert b.nextId _).size ≤ _
    rw [hm, Table.size_insert, Table.size_insert, if_pos hc]
    split <;> omega

theorem numbered (e : b.Effect now c a b') (h : b.Few → b.Numbered) (few : b'.Few) :
    b'.Numbered := by
  have hb : b.Numbered := h (e.size_le.trans_lt few)
  cases e with
  | still => exact ⟨hb.next, hb.used⟩
  | @moved _ j j' stored m =>
    have ht : (b.take c j.buildId).Numbered := ⟨hb.next, hb.used⟩
    refine ht.commit ?_
    rw [m.buildId_eq]
    exact contains_of_get? stored
  | added => exact hb.insertScheduled _ _ _ few
  | @replaced _ j stored running r =>
    have hl : (b.leaveWaiting j.buildId).Numbered := ⟨hb.next, hb.used⟩
    have hr : ((b.leaveWaiting j.buildId).commit (j.enter .rescheduled now)).Numbered :=
      hl.commit (contains_of_get? stored)
    exact hr.insertScheduled _ _ _ few

end Effect

/-- What every session keeps. -/
structure Sound (s : Session Board) : Prop where
  coherent : s.state.Coherent
  size_le : s.state.jobs.size ≤ (made s.log).length
  numbered : s.state.Few → s.state.Numbered

theorem Sound.call {s : Session Board} (h : Sound s) (x : Step Call) : Sound (s.call x) := by
  have e := h.coherent.perform_effect x.now x.call
  refine ⟨e.coherent h.coherent, ?_, e.numbered h.numbered⟩
  rw [made_call, List.length_append]
  exact e.size_le_made.trans (Nat.add_le_add_right h.size_le _)

theorem Sound.run {s : Session Board} (h : Sound s) (steps : List (Step Call)) :
    Sound (s.run steps) := Session.run_keeps (fun _ x h => h.call x) h steps

theorem sound_session (steps : List (Step Call)) : Sound (session steps) :=
  Sound.run ⟨coherent_empty, le_rfl, fun _ => numbered_empty⟩ steps

theorem coherent_session (steps : List (Step Call)) : (session steps).state.Coherent :=
  (sound_session steps).coherent

theorem Sound.numbered_of_made {s : Session Board} (h : Sound s)
    (few : (made s.log).length < 2 ^ 64 - 1) : s.state.Numbered :=
  h.numbered (h.size_le.trans_lt few)

theorem numbered_session {steps : List (Step Call)}
    (few : (made (session steps).log).length < 2 ^ 64 - 1) : (session steps).state.Numbered :=
  (sound_session steps).numbered_of_made few

theorem effect_session (earlier : List (Step Call)) (x : Step Call) :
    (session earlier).state.Effect x.now x.call ((session earlier).state.perform x.now x.call).1
      (session (earlier ++ [x])).state := by
  rw [session_concat]
  exact (coherent_session earlier).perform_effect x.now x.call

theorem numbered_of_append {earlier later : List (Step Call)}
    (few : (made (session (earlier ++ later)).log).length < 2 ^ 64 - 1) :
    (session earlier).state.Numbered :=
  numbered_session ((made_length_le_append earlier later).trans_lt few)

/-- Induction over the calls of a session with so few jobs that their numbers stay apart. -/
theorem session_induction {P : Session Board → Prop} (start : P (.start empty))
    (call : ∀ s x, s.state.Coherent → s.state.Numbered → P s → P (s.call x))
    (steps : List (Step Call)) (few : (made (session steps).log).length < 2 ^ 64 - 1) :
    P (session steps) := by
  induction steps using List.reverseRecOn with
  | nil => exact start
  | append_singleton steps x ih =>
    rw [session_concat] at few ⊢
    have hs := sound_session steps
    have hf := (made_length_le (session steps) [x]).trans_lt few
    exact call _ x hs.coherent (hs.numbered_of_made hf) (ih hf)

/--
A session in which a job is taken from one agent, and its copy is run by another; a second job is
cancelled while it waits.
-/
def relay : List (Step Call) :=
  let asks (uuid : String) : Call := .assignNext (.fresh ⟨"host", "10.0.0.1", uuid⟩ "/agent")
  [⟨.create ⟨"site", "1", "build", "compile", .empty⟩, 5⟩, ⟨asks "u1", 6⟩,
    ⟨.report "u1" 1 (.status .building), 7⟩,
    ⟨.create ⟨"site", "1", "build", "test", .empty⟩, 8⟩, ⟨.cancel 2, 9⟩, ⟨.reschedule 1, 9⟩,
    ⟨asks "u2", 10⟩, ⟨.report "u2" 3 (.completed .passed), 12⟩]

theorem Sound.kept {s : Session Board} (h : Sound s) {later : List (Step Call)}
    (few : (made (s.run later).log).length < 2 ^ 64 - 1) {P : Job → Prop} {id : BuildId}
    (keeps : ∀ earlier x rest, later = earlier ++ x :: rest →
      ∀ j j', (s.run earlier).state.get? id = some j → j.Coherent →
        j.Becomes x.now (s.run earlier).state.nextId x.call
          ((s.run earlier).state.perform x.now x.call).1 j' → P j → P j')
    {j : Job} (stored : s.state.get? id = some j) (hj : P j) :
    ∃ j', (s.run later).state.get? id = some j' ∧ P j' := by
  induction later generalizing s j with
  | nil => exact ⟨j, stored, hj⟩
  | cons x rest ih =>
    have hn := h.numbered_of_made ((made_length_le s (x :: rest)).trans_lt few)
    have e := h.coherent.perform_effect x.now x.call
    obtain ⟨k, hk, hb⟩ := e.becomes stored (e.made?_ne hn stored)
    have hp : P k := keeps [] x rest rfl j k stored (h.coherent.jobs stored) hb hj
    refine ih (h.call x) few (fun earlier y tail hr => ?_) hk hp
    exact keeps (x :: earlier) y tail (congrArg (List.cons x) hr)

/-- What later calls make of a job. -/
theorem Sound.follows {s : Session Board} (h : Sound s) {later : List (Step Call)}
    (few : (made (s.run later).log).length < 2 ^ 64 - 1) {id : BuildId} {j : Job}
    (stored : s.state.get? id = some j) :
    ∃ j', (s.run later).state.get? id = some j' ∧ j.Follows j' :=
  h.kept few (fun _ _ _ _ _ _ _ hk hb hf => hf.trans (hb.follows hk)) stored (.refl j)

end Board

end BuildDispatch
