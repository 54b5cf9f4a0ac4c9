import BuildDispatch.Proofs.Dispatcher.Contact
import BuildDispatch.Proofs.Dispatcher.OneJob

/-!
What an agent is told when it pings: to stop if and only if it has something to stop
(`Dispatcher.told_to_stop_iff`).
-/
namespace BuildDispatch

namespace Board

/-- The job that is noted for an agent was given to it. -/
def Noted (b : Board) : Prop :=
  ∀ {uuid id}, b.assignments.get? uuid = some id → ∃ j, b.get? id = some j ∧ j.agent = some uuid

namespace Effect

variable {b b' : Board} {now : Timestamp} {c : Call} {a : Answer}

theorem of_handed? (e : b.Effect now c a b') {uuid : String} {id : BuildId}
    (handed : handed? uuid c a = some id) : ∃ j, b'.get? id = some j ∧ j.agent = some uuid := by
  unfold handed? at handed
  split at handed
  case h_1 info =>
    split_ifs at handed with hu
    obtain ⟨info', j, j', hc, -, -, stored', own', -⟩ := e.of_given? handed
    cases hc
    exact ⟨j', stored', hu ▸ own'⟩
  case h_2 => cases handed

theorem noted (e : b.Effect now c a b') (h : b.Tended) (few : b'.Few) (hn : b.Few → b.Noted) :
    b'.Noted := by
  have few : b.Few := e.size_le.trans_lt few
  intro uuid id noted
  rw [e.assignments_eq] at noted
  cases handed : handed? uuid c a with
  | some id' =>
    rw [handed] at noted
    cases noted
    exact e.of_handed? handed
  | none =>
    rw [handed] at noted
    obtain ⟨j, stored, own⟩ := hn few noted
    have numbered := h.numbered few
    obtain ⟨j', stored', hb⟩ := e.becomes stored (e.made?_ne numbered stored)
    exact ⟨j', stored', (hb.follows (h.coherent.jobs stored)).agent own⟩

end Effect

section Instruction

variable (b : Board) {info : Snapshot}

def Recalls (uuid : String) : Prop := ∃ id j,
  b.get? id = some j ∧ j.agent = some uuid ∧ j.isTerminal = false ∧ j.result = .cancelled

/-- An agent that runs a job is told to stop if the job should be stopped and has not completed. -/
theorem instructionFor_of_busy {ref : JobRef} (busy : info.currentJob = some ref) :
    (b.instructionFor info).cancel = true ↔
      ∃ j, b.get? ref.buildId = some j ∧ j.state ≠ .completed ∧ b.isIgnored ref.buildId = true := by
  unfold instructionFor jobOf? isIgnored
  rw [busy]
  dsimp only
  cases b.get? ref.buildId with
  | none => simp
  | some j => simp

/-- An agent that runs no job is told to stop if its last job was cancelled and has not ended. -/
theorem instructionFor_of_idle (idle : info.currentJob = none) :
    (b.instructionFor info).cancel = true ↔
      ∃ id j, b.assignments.get? info.uuid = some id ∧ b.get? id = some j ∧
        j.isTerminal = false ∧ j.result = .cancelled := by
  unfold instructionFor jobOf?
  rw [idle]
  cases b.assignments.get? info.uuid with
  | none => simp
  | some id =>
    rw [Option.bind_some]
    cases stored : b.get? id with
    | none => simp [stored]
    | some j =>
      cases ended : j.isTerminal with
      | true => simp [stored, ended]
      | false =>
        have running {s : JobState} (terminal : s.isTerminal = true) : j.state ≠ s := by
          rintro rfl
          rw [Job.isTerminal, terminal] at ended
          cases ended
        have completed : j.state ≠ .completed := running rfl
        have rescheduled : j.state ≠ .rescheduled := running rfl
        simp [stored, ended, Job.isIgnored, completed, rescheduled]

end Instruction

end Board

namespace Dispatcher

theorem noted_session (config : Config) (payload : PayloadStore) (steps : List (Step Call))
    (few : (session config payload steps).state.board.Few) :
    (session config payload steps).state.board.Noted := by
  refine board_session (P := fun b => b.Few → b.Noted) ?_ ?_ ?_ config payload steps few
  · intro b b' now c a h e hn few
    exact e.noted h few hn
  · intro b c hn few
    exact hn few
  · intro few uuid id noted
    cases noted

variable (d : Dispatcher) {info : Snapshot} (now : Timestamp)

theorem ping_of_admits (admitted : d.roster.Admits info) :
    d.ping info now = (.ok (d.board.instructionFor info), d.seen info now) := by
  obtain ⟨status, r, hs, -⟩ := d.roster.observe_of_admits now admitted
  unfold ping Roster.ping seen
  rw [hs]
  rfl

theorem admits_seen (admitted : d.roster.Admits info) : (d.seen info now).roster.Admits info := by
  intro cookie location bound
  have kept := d.roster.bound?_after now info.uuid (.observe info)
  change (d.seen info now).roster.bound? info.uuid = (none).or (d.roster.bound? info.uuid) at kept
  rw [kept] at bound
  exact admitted cookie location bound

/--
A ping changes no job, and it is answered alike until something else happens. An agent that says
what it runs is told to stop if that should be stopped; one that runs nothing, if it has a job that
was cancelled and has not ended. For the last converse, there are so `Few` jobs that the number that
was noted for an agent is not used again.
-/
theorem told_to_stop_iff (config : Config) (payload : PayloadStore) (steps : List (Step Call))
    (info : Snapshot) (now : Timestamp)
    (admitted : (session config payload steps).state.roster.Admits info) :
    let d := (session config payload steps).state
    ∃ instruction d', d.ping info now = (.ok instruction, d') ∧ d'.board = d.board ∧
      (∀ ref, info.currentJob = some ref → (instruction.cancel = true ↔
        ∃ j, d.board.get? ref.buildId = some j ∧ j.state ≠ .completed ∧ d.isIgnored ref = true)) ∧
      (info.currentJob = none → (d.board.Recalls info.uuid → instruction.cancel = true) ∧
        (d.board.Few → instruction.cancel = true → d.board.Recalls info.uuid)) ∧
      ∀ now', (d'.ping info now').1 = .ok instruction := by
  intro d
  have board : d.board.Tended := (tended_session config payload steps).board
  refine ⟨_, _, d.ping_of_admits now admitted, rfl, ?_, ?_, ?_⟩
  · intro ref busy
    exact d.board.instructionFor_of_busy busy
  · intro idle
    rw [d.board.instructionFor_of_idle idle]
    constructor
    · rintro ⟨id, j, stored, own, running, cancelled⟩
      exact ⟨id, j, board.held ⟨j, stored, own, running⟩, stored, running, cancelled⟩
    · rintro few ⟨id, j, noted, stored, running, cancelled⟩
      obtain ⟨j', stored', own⟩ := noted_session config payload steps few noted
      rw [stored] at stored'
      cases stored'
      exact ⟨id, j, stored, own, running, cancelled⟩
  · intro now'
    rw [(d.seen info now).ping_of_admits now' (d.admits_seen now admitted)]
    rfl

def recalled (info : Snapshot) : List (Step Call) :=
  [⟨.trigger (.material "site" [⟨"repo", "r1"⟩]), 5⟩, ⟨.getWork info, 6⟩, ⟨.cancelJob 1, 7⟩]

theorem told_to_stop_iff_recalled :
    let info := Snapshot.fresh ⟨"host", "10.0.0.1", "u1"⟩ "/agent"
    let d := (session site (.new none none) (recalled info)).state
    d.roster.Admits info ∧ d.board.Recalls "u1" ∧
      ∃ instruction d', d.ping info 8 = (.ok instruction, d') ∧ d'.board = d.board ∧
        (instruction.cancel = true ↔ d.board.Recalls "u1") := by
  intro info d
  have admitted : d.roster.Admits info := by
    intro cookie location bound
    have free : d.roster.bound? info.uuid = none := by decide +kernel
    rw [free] at bound
    cases bound
  have recalls : d.board.Recalls "u1" := ⟨1, _, rfl, rfl, rfl, rfl⟩
  have few : d.board.Few := by
    unfold Board.Few
    decide +kernel
  obtain ⟨instruction, d', told, kept, -, stops, -⟩ :=
    told_to_stop_iff site (.new none none) (recalled info) info 8 admitted
  exact ⟨admitted, recalls, instruction, d', told, kept, (stops rfl).2 few, (stops rfl).1⟩

end Dispatcher

end BuildDispatch
