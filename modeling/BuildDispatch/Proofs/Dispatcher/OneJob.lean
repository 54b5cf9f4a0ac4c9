import BuildDispatch.Proofs.Board.Holder
import BuildDispatch.Proofs.Dispatcher.Call

/-!
An agent has one job at a time. It gives up the job that it runs before the next is handed to it, so
that a session keeps its board tended (`Dispatcher.tended_session`).
-/
namespace BuildDispatch

namespace Board

theorem Tended.saveCause {b : Board} (h : b.Tended) (c : BuildCause) :
    Tended { b with repository := b.repository.saveCause c } where
  coherent := ⟨h.coherent.keyed, h.coherent.listed, h.coherent.jobs⟩
  held := h.held
  numbered few := ⟨(h.numbered few).next, (h.numbered few).used⟩

theorem Quiet.tended {b b' : Board} (q : b.Quiet b') (h : b.Tended) :
    b'.Tended ∧ ∀ uuid, b'.assignments.get? uuid = b.assignments.get? uuid := by
  induction q with
  | refl => exact ⟨h, fun _ => rfl⟩
  | @call k before now c quiet ih =>
    have e := ih.1.coherent.perform_effect now c
    refine ⟨e.tended ih.1 fun info _ hc => absurd hc (quiet info), fun uuid => ?_⟩
    rw [e.assignments_eq, handed?_of_quiet uuid quiet]
    exact ih.2 uuid
  | cause before c ih => exact ⟨ih.1.saveCause c, ih.2⟩

/-- What calls that hand nothing out keep, and the keeping of causes, holds after them. -/
theorem Quiet.keeps {P : Board → Prop} {b b' : Board} (q : b.Quiet b') (h : b.Tended)
    (call : ∀ {k k' : Board} {now : Timestamp} {c : Call} {a : Answer},
      (∀ info, c ≠ .assignNext info) → k.Tended → k.Effect now c a k' → P k → P k')
    (cause : ∀ {k : Board} (c : BuildCause), P k →
      P { k with repository := k.repository.saveCause c })
    (start : P b) : P b' := by
  induction q with
  | refl => exact start
  | call before now quiet ih =>
    have tended := (before.tended h).1
    exact call quiet tended (tended.coherent.perform_effect now _) ih
  | cause before c ih => exact cause c ih

/--
What has become of a job that its agent gave up: a copy was queued, and no other job was made. The
copy still waits, unless it was handed out at once. While there are `Few` jobs, its number is new.
-/
structure Requeued (b : Board) (j : Job) (uuid : String) (now : Timestamp)
    (given : Option Assignment) (b' : Board) : Prop where
  retired : b.Few → b'.get? j.buildId = some (j.enter .rescheduled now)
  unused : b.Few → b.get? b.nextId = none
  only : ∀ {id}, b.get? id = none → (b'.get? id).isSome = true → id = b.nextId
  copied :
    b'.get? b.nextId = some (b.copyOf j now) ∧ b'.waiting.contains b.nextId = true ∨
    b'.get? b.nextId = some ({ b.copyOf j now with agent := some uuid }.enter .assigned now) ∧
      given = some ⟨(b.copyOf j now).ref, j.plan⟩

namespace Tended

variable {b : Board} (h : b.Tended) (info : Snapshot) (now : Timestamp)
include h

theorem releaseAbandoned : (b.releaseAbandoned info.uuid now).2.Tended :=
  (h.coherent.releaseAbandoned_effect now info.uuid).tended h (by simp)

/-- The job that an agent has given up is followed by the one that is handed to it. -/
theorem nextAssignment_effect : (b.releaseAbandoned info.uuid now).2.Effect now (.assignNext info)
    (.work (Dispatcher.nextAssignment b info now).1) (Dispatcher.nextAssignment b info now).2 :=
  (h.releaseAbandoned info now).coherent.assignNext_effect now info

theorem nextAssignment : (Dispatcher.nextAssignment b info now).2.Tended := by
  refine (h.nextAssignment_effect info now).tended (h.releaseAbandoned info now) ?_
  rintro _ id ⟨rfl⟩
  exact free_releaseAbandoned h.coherent h.held info.uuid now id

theorem assignments_nextAssignment (uuid : String) :
    (Dispatcher.nextAssignment b info now).2.assignments.get? uuid =
      (handed? uuid (.assignNext info) (.work (Dispatcher.nextAssignment b info now).1)).or
        (b.assignments.get? uuid) := by
  rw [(h.nextAssignment_effect info now).assignments_eq,
    (h.coherent.releaseAbandoned_effect now info.uuid).assignments_eq]
  rfl

theorem runs_nextAssignment (id : BuildId) :
    (Dispatcher.nextAssignment b info now).2.Runs info.uuid id ↔
      (Dispatcher.nextAssignment b info now).1.map (·.job.buildId) = some id := by
  have e := h.nextAssignment_effect info now
  constructor
  · intro runs
    rcases e.runs (h.releaseAbandoned info now).coherent runs with before | hh
    · exact absurd before (free_releaseAbandoned h.coherent h.held info.uuid now id)
    · rw [handed?_assignNext, if_pos rfl] at hh
      exact hh
  · intro hg
    obtain ⟨_, _, j', ⟨rfl⟩, -, -, stored', own', hs⟩ := e.of_given? hg
    exact ⟨j', stored', own', by rw [Job.isTerminal, hs]; rfl⟩

variable {j : Job} (stored : b.get? j.buildId = some j) (own : j.agent = some info.uuid)
  (running : j.isTerminal = false)
include stored own running

theorem completed_nextAssignment (cancelled : j.result = .cancelled) :
    (Dispatcher.nextAssignment b info now).2.get? j.buildId = some (j.enter .completed now) := by
  have hr := releaseAbandoned_of_running now (h.held ⟨j, stored, own, running⟩) stored own running
  rw [if_pos cancelled] at hr
  have hs : (b.releaseAbandoned info.uuid now).2.get? j.buildId =
      some (j.enter .completed now) := by
    rw [hr, get?_commit, Job.buildId_enter, if_pos rfl]
  obtain ⟨j', stored', hb⟩ := (h.nextAssignment_effect info now).becomes hs (by simp [Answer.made?])
  rw [stored', hb.eq_of_terminal rfl]

theorem requeued_nextAssignment (kept : j.result ≠ .cancelled) :
    b.Requeued j info.uuid now (Dispatcher.nextAssignment b info now).1
      (Dispatcher.nextAssignment b info now).2 := by
  have hr := releaseAbandoned_of_running now (h.held ⟨j, stored, own, running⟩) stored own running
  rw [if_neg kept] at hr
  have e := h.nextAssignment_effect info now
  rw [hr] at e
  constructor
  case retired =>
    intro few
    have hs : (b.replace j now).get? j.buildId = some (j.enter .rescheduled now) := by
      rw [get?_replace, if_neg ((h.numbered few).ne_nextId stored), if_pos rfl]
    obtain ⟨j', stored', hb⟩ := e.becomes hs (by simp [Answer.made?])
    rw [stored', hb.eq_of_terminal rfl]
  case unused => exact fun few => (h.numbered few).fresh
  case only =>
    intro id absent present
    obtain ⟨j', stored'⟩ := Option.isSome_iff_exists.1 present
    rcases e.origin stored' with ⟨k, hk, -⟩ | ⟨-, hm, -⟩
    · rw [get?_replace] at hk
      split_ifs at hk with hn hs
      · exact hn
      · rw [hs, stored] at absent
        cases absent
      · rw [absent] at hk
        cases hk
    · cases hm
  case copied =>
    have hs : (b.replace j now).get? b.nextId = some (b.copyOf j now) := by
      rw [get?_replace, if_pos rfl]
    obtain ⟨j', stored', hb⟩ := e.becomes hs (by simp [Answer.made?])
    have hl := (h.nextAssignment info now).coherent.listed b.nextId
    rw [hl, stored']
    generalize (Dispatcher.nextAssignment b info now).1 = given at hb ⊢
    -- Of what may become of a job, an assignment can only leave it or give it to the agent.
    cases hb with
    | same => exact .inl ⟨rfl, _, rfl, rfl⟩
    | moved m =>
      cases m with
      | assigned => exact .inr ⟨rfl, rfl⟩
    | retired _ r => cases r

end Tended

end Board

namespace Dispatcher

def given? (uuid : String) (e : Entry Call Reply) : Option BuildId :=
  match e.call, e.answer with
  | .getWork info, .work (.ok (.build a)) =>
    if info.uuid = uuid then some a.job.buildId else none
  | _, _ => none

def lastGiven? (uuid : String) (log : List (Entry Call Reply)) : Option BuildId :=
  (log.filterMap (given? uuid)).getLast?

theorem given?_work (uuid : String) (info : Snapshot) (now : Timestamp)
    (given : Option Assignment) :
    given? uuid ⟨⟨.getWork info, now⟩, .work (.ok (workOf given))⟩ =
      Board.handed? uuid (.assignNext info) (.work given) := by
  cases given with
  | none => exact (ite_self none).symm
  | some a => rfl

theorem given?_of_quiet (uuid : String) (x : Step Call) {answer : Reply}
    (quiet : ∀ a, answer ≠ .work (.ok (.build a))) : given? uuid ⟨x, answer⟩ = none := by
  unfold given?
  split
  case h_1 a _ ha => exact absurd ha (quiet a)
  case h_2 => rfl

theorem lastGiven?_call (uuid : String) (s : Session Dispatcher) (x : Step Call) :
    lastGiven? uuid (s.call x).log =
      (given? uuid ⟨x, (s.state.perform x.now x.call).1⟩).or (lastGiven? uuid s.log) :=
  s.getLast?_filterMap_call x (given? uuid)

structure Tended (s : Session Dispatcher) : Prop where
  board : s.state.board.Tended
  noted : ∀ uuid, s.state.board.assignments.get? uuid = lastGiven? uuid s.log

theorem tended_perform {d : Dispatcher} (h : d.board.Tended) (now : Timestamp) (c : Call) :
    (d.perform now c).2.board.Tended ∧
      ∀ uuid, (d.perform now c).2.board.assignments.get? uuid =
        (given? uuid ⟨⟨c, now⟩, (d.perform now c).1⟩).or (d.board.assignments.get? uuid) := by
  rcases perform_cases d now c with ⟨info, rfl, ha, hb⟩ | ⟨hn, hq⟩
  · rw [hb, ha]
    refine ⟨h.nextAssignment info now, fun uuid => ?_⟩
    rw [given?_work, h.assignments_nextAssignment]
  · obtain ⟨ht, he⟩ := hq.tended h
    refine ⟨ht, fun uuid => ?_⟩
    rw [given?_of_quiet uuid _ hn]
    exact he uuid

theorem Tended.call {s : Session Dispatcher} (h : Tended s) (x : Step Call) :
    Tended (s.call x) := by
  obtain ⟨tended, noted⟩ := tended_perform h.board x.now x.call
  refine ⟨tended, fun uuid => ?_⟩
  rw [lastGiven?_call, ← h.noted]
  exact noted uuid

theorem tended_session (config : Config) (payload : PayloadStore) (steps : List (Step Call)) :
    Tended (session config payload steps) :=
  Session.run_keeps (fun _ x h => h.call x) ⟨Board.tended_empty, fun _ => rfl⟩ steps

section Keeps

variable {P : Board → Prop}
  (call : ∀ {b b' : Board} {now : Timestamp} {c : Board.Call} {a : Board.Answer},
    b.Tended → b.Effect now c a b' → P b → P b')
  (cause : ∀ {b : Board} (c : BuildCause), P b →
    P { b with repository := b.repository.saveCause c })
include call cause

/-- What every call on a board keeps, a call on its dispatcher keeps. -/
theorem board_perform {d : Dispatcher} (tended : d.board.Tended) (start : P d.board)
    (now : Timestamp) (c : Call) : P (d.perform now c).2.board := by
  rcases perform_cases d now c with ⟨info, -, -, hb⟩ | ⟨-, quiet⟩
  · rw [hb]
    have released := tended.coherent.releaseAbandoned_effect now info.uuid
    exact call (tended.releaseAbandoned info now) (tended.nextAssignment_effect info now)
      (call tended released start)
  · exact quiet.keeps tended (fun _ => call) cause start

/-- What every call on a board keeps, the board of a dispatcher keeps. -/
theorem board_session (start : P .empty) (config : Config) (payload : PayloadStore)
    (steps : List (Step Call)) : P (session config payload steps).state.board := by
  have keeps (s : Session Dispatcher) (x : Step Call)
      (h : Tended s ∧ P s.state.board) : Tended (s.call x) ∧ P (s.call x).state.board :=
    ⟨h.1.call x, board_perform call cause h.1.board h.2 x.now x.call⟩
  have tended := tended_session config payload []
  exact (Session.run_keeps (P := fun s : Session Dispatcher => Tended s ∧ P s.state.board)
    keeps ⟨tended, start⟩ steps).2

end Keeps

/--
An agent has at most one job that has not ended, the one that was given to it last. Once it has
asked for work, it has none but the one it was just given, and what it ran before was made again, or
has ended if it was cancelled.
-/
theorem one_job_per_agent (config : Config) (payload : PayloadStore) (steps : List (Step Call)) :
    let s := session config payload steps
    (∀ uuid id, s.state.board.Runs uuid id →
      s.state.board.assignments.get? uuid = some id ∧ lastGiven? uuid s.log = some id ∧
      ∀ id', s.state.board.Runs uuid id' → id' = id) ∧
    ∀ info now status, (s.state.roster.observe info now).1 = .ok status →
      status.isHeld = false → info.status = .idle → info.currentJob = none →
      ∃ given d', s.state.getWork info now = (.ok (workOf given), d') ∧
        (∀ id, d'.board.Runs info.uuid id ↔ given.map (·.job.buildId) = some id) ∧
        ∀ id j, s.state.board.get? id = some j → j.agent = some info.uuid →
          j.isTerminal = false →
          if j.result = .cancelled then d'.board.get? id = some (j.enter .completed now)
          else s.state.board.Requeued j info.uuid now given d'.board := by
  intro s
  have h : Tended s := tended_session config payload steps
  constructor
  · intro uuid id runs
    have noted := h.board.held runs
    refine ⟨noted, ?_, fun id' runs' => Board.Held.unique h.board.held runs runs'⟩
    rw [← h.noted]
    exact noted
  · intro info now status observed unheld idle free
    rw [getWork_of_observed _ observed unheld, nextWork_of_idle _ now idle free, board_seen]
    refine ⟨_, _, rfl, h.board.runs_nextAssignment info now, ?_⟩
    intro id j stored own running
    have hid := h.board.coherent.keyed stored
    subst hid
    split_ifs with hr
    · exact h.board.completed_nextAssignment info now stored own running hr
    · exact h.board.requeued_nextAssignment info now stored own running hr

def site : Config :=
  ⟨true, .unrestricted,
    [⟨"site", [], [⟨"repo", "/repo"⟩], ∅, [⟨"build", [⟨"compile", [], []⟩]⟩]⟩]⟩

/-- A job is made when a material changes, and an agent takes it. -/
def takeover (info : Snapshot) : Session Dispatcher :=
  session site (.new none none)
    [⟨.trigger (.material "site" [⟨"repo", "r1"⟩]), 5⟩, ⟨.getWork info, 6⟩]

theorem one_job_per_agent_abandoned :
    let info := Snapshot.fresh ⟨"host", "10.0.0.1", "u1"⟩ "/agent"
    let b := (takeover info).state.board
    b.Runs "u1" 1 ∧ b.assignments.get? "u1" = some 1 ∧
    ∃ given d', (takeover info).state.getWork info 7 = (.ok (workOf given), d') ∧
      (∀ id, d'.board.Runs "u1" id ↔ given.map (·.job.buildId) = some id) ∧
      ∃ j, b.get? 1 = some j ∧ b.Requeued j "u1" 7 given d'.board := by
  intro info b
  obtain ⟨one, next⟩ := one_job_per_agent site (.new none none)
    [⟨.trigger (.material "site" [⟨"repo", "r1"⟩]), 5⟩, ⟨.getWork info, 6⟩]
  have runs : b.Runs "u1" 1 := ⟨_, rfl, rfl, rfl⟩
  obtain ⟨given, d', hw, hr, hj⟩ := next info 7 .idle (by decide) rfl rfl rfl
  exact ⟨runs, (one "u1" 1 runs).1, given, d', hw, hr, _, rfl, hj 1 _ rfl rfl rfl⟩

end Dispatcher

end BuildDispatch
