import BuildDispatch.Proofs.Board.Sound

/-!
The jobs that agents hold. As long as an agent gives up its job before it is handed another, it
holds at most one, which is the job that was noted for it last (`Board.Held`).
-/
namespace BuildDispatch.Board

def handed? (uuid : String) (c : Call) (a : Answer) : Option BuildId :=
  match c with
  | .assignNext info => if info.uuid = uuid then a.given? else none
  | _ => none

theorem handed?_assignNext (uuid : String) (info : Snapshot) (a : Answer) :
    handed? uuid (.assignNext info) a = if info.uuid = uuid then a.given? else none := rfl

theorem handed?_of_quiet (uuid : String) {c : Call} (quiet : ∀ info, c ≠ .assignNext info)
    (a : Answer) : handed? uuid c a = none := by
  unfold handed?
  split
  case h_1 info => exact absurd rfl (quiet info)
  case h_2 => rfl

/-- An agent has a job that has not ended. -/
def Runs (b : Board) (uuid : String) (id : BuildId) : Prop :=
  ∃ j, b.get? id = some j ∧ j.agent = some uuid ∧ j.isTerminal = false

/-- A job that an agent runs is the one that is noted for the agent. -/
def Held (b : Board) : Prop :=
  ∀ {uuid id}, b.Runs uuid id → b.assignments.get? uuid = some id

theorem Held.unique {b : Board} (h : b.Held) {uuid : String} {id id' : BuildId}
    (runs : b.Runs uuid id) (runs' : b.Runs uuid id') : id' = id := by
  have hn := h runs
  rw [h runs'] at hn
  exact Option.some.inj hn

namespace Effect

variable {b b' : Board} {now : Timestamp} {c : Call} {a : Answer}

/-- What is noted for an agent is the last job that it was handed. -/
theorem assignments_eq (e : b.Effect now c a b') (uuid : String) :
    b'.assignments.get? uuid = (handed? uuid c a).or (b.assignments.get? uuid) := by
  cases e with
  | still _ _ _ given =>
    have hh : handed? uuid c a = none := by
      unfold handed?
      split
      · rw [given, ite_self]
      · rfl
    rw [hh]
    rfl
  | @moved _ j j' stored m =>
    cases m with
    | @assigned info =>
      change (b.assignments.insert _ j.buildId).get? uuid = _
      rw [Table.get?_insert, handed?_assignNext]
      by_cases hu : uuid = info.uuid
      · rw [if_pos hu, if_pos hu.symm]
        rfl
      · rw [if_neg hu, if_neg (Ne.symm hu)]
        rfl
    | _ => rfl
  | added asked =>
    subst asked
    rfl
  | replaced _ _ r => cases r <;> rfl

/-- A job is run by an agent that ran it before, or that it is handed out to. -/
theorem runs (e : b.Effect now c a b') (hc : b.Coherent) {uuid : String} {id : BuildId}
    (runs' : b'.Runs uuid id) : b.Runs uuid id ∨ handed? uuid c a = some id := by
  obtain ⟨j', stored', own', running'⟩ := runs'
  rcases e.owned hc stored' own' with ⟨j, stored, own, hb⟩ | ⟨info, rfl, hu, hg⟩
  · have running : j.isTerminal = false := by
      by_contra ht
      rw [hb.eq_of_terminal (by simpa using ht)] at running'
      exact ht running'
    exact .inl ⟨j, stored, own, running⟩
  · rw [handed?_assignNext, if_pos hu]
    exact .inr hg

theorem held (e : b.Effect now c a b') (hc : b.Coherent) (h : b.Held)
    (free : ∀ info id, c = .assignNext info → ¬b.Runs info.uuid id) : b'.Held := by
  intro uuid id runs'
  rw [e.assignments_eq]
  rcases e.runs hc runs' with runs | hh
  · have hh : handed? uuid c a = none := by
      unfold handed?
      split
      case h_1 info => exact if_neg fun hu : info.uuid = uuid => free info id rfl (hu ▸ runs)
      case h_2 => rfl
    rw [hh]
    exact h runs
  · rw [hh]
    rfl

end Effect

theorem releaseAbandoned_of_running {b : Board} {uuid : String} {j : Job} (now : Timestamp)
    (noted : b.assignments.get? uuid = some j.buildId) (stored : b.get? j.buildId = some j)
    (own : j.agent = some uuid) (running : j.isTerminal = false) :
    b.releaseAbandoned uuid now =
      if j.result = .cancelled then (none, b.commit (j.enter .completed now))
      else (some b.nextId, b.replace j now) := by
  have own : j.isAssignedTo uuid = true := decide_eq_true own
  have hr := reschedule_of_running now stored running
  unfold releaseAbandoned
  rw [noted, Option.bind_some, stored]
  simp only [running, own, hr]
  rfl

theorem free_releaseAbandoned {b : Board} (hc : b.Coherent) (h : b.Held) (uuid : String)
    (now : Timestamp) (id : BuildId) : ¬(b.releaseAbandoned uuid now).2.Runs uuid id := by
  intro runs'
  -- The job was run before, so that it is the one that is given up.
  have runs : b.Runs uuid id := by
    rcases (hc.releaseAbandoned_effect now uuid).runs hc runs' with runs | hh
    · exact runs
    · cases hh
  have noted := h runs
  obtain ⟨j, stored, own, running⟩ := runs
  obtain ⟨j', stored', own', running'⟩ := runs'
  have hid := hc.keyed stored
  subst hid
  rw [releaseAbandoned_of_running now noted stored own running] at stored'
  split_ifs at stored' with hr
  · rw [get?_commit, Job.buildId_enter, if_pos rfl] at stored'
    cases stored'
    cases running'
  · rw [get?_replace] at stored'
    split_ifs at stored' with hn hs
    · cases stored'
      cases own'
    · cases stored'
      cases running'
    · exact hs rfl

/-- What the board of a dispatcher keeps. -/
structure Tended (b : Board) : Prop where
  coherent : b.Coherent
  held : b.Held
  numbered : b.Few → b.Numbered

theorem tended_empty : empty.Tended :=
  ⟨coherent_empty, fun ⟨_, stored, _⟩ => (by cases stored), fun _ => numbered_empty⟩

theorem Effect.tended {b b' : Board} {now : Timestamp} {c : Call} {a : Answer}
    (e : b.Effect now c a b') (h : b.Tended)
    (free : ∀ info id, c = .assignNext info → ¬b.Runs info.uuid id) : b'.Tended :=
  ⟨e.coherent h.coherent, e.held h.coherent h.held free, e.numbered h.numbered⟩

end BuildDispatch.Board
