import BuildDispatch.Proofs.Worker.Scruples
import Mathlib.Logic.Relation

/-!
An agent gives up no job but one that was taken back, as long as it obeys no answer to a ping that
is out of date (`Worker.gives_up_only_revoked`). An answer does not say which job it is about: one
that comes late stops the job that the agent runs by then (`Worker.gives_up_another_job`).
-/
namespace BuildDispatch.Worker

open Dispatcher (Blameless Grows Revoked)
open Relation (ReflTransGen)

variable {config : Config} {uuid : String}

namespace Scene

/-- Both loops of the agent keep to their guarantees. -/
structure Lawful (config : Config) (uuid : String) (S : Scene) : Prop where
  work : Worker.Lawful config uuid .work S.served S.work
  pings : Worker.Lawful config uuid .pings S.served S.pings

variable {S T : Scene}

theorem Lawful.serve (h : S.Lawful config uuid) {s : Session Dispatcher}
    (served : Blameless config uuid s ∧ Grows uuid S.served.dispatcher s) :
    Lawful config uuid { S with served.dispatcher := s } :=
  ⟨h.work.since (h.work.sane.since served), h.pings.since (h.work.sane.since served)⟩

theorem HasGivenUp.honest (h : S.Lawful config uuid) {β : Type} {c : Call β}
    (givenUp : S.HasGivenUp c) : c.Honest uuid S.served.dispatcher := by
  obtain ⟨e, -, asked | asked⟩ := givenUp
  · exact h.work.honest _ asked
  · exact h.pings.honest _ asked

/-- Every step keeps the loops to their guarantees, if it obeys no answer that is out of date. -/
theorem Lawful.moves (h : S.Lawful config uuid) (step : S.MovesTimely T) (few : T.served.Few) :
    T.Lawful config uuid := by
  obtain ⟨step, timely⟩ := step
  have sane := h.work.sane
  cases step with
  | work step =>
    obtain ⟨work, since⟩ := h.work.advance step few nofun
    exact ⟨work, h.pings.since since⟩
  | pings step =>
    obtain ⟨pings, since⟩ := h.pings.advance step few fun _ => timely
    exact ⟨h.work.since since, pings⟩
  | late c x givenUp =>
    exact h.serve (sane.blameless.ask_of_honest few (givenUp.honest h))
  | asked c x spares =>
    refine h.serve (sane.blameless.ask few fun op asked id gives => ?_)
    obtain ⟨info, ref, r, rfl, own, -⟩ := gives
    exact absurd (own.trans sane.named.symm) (spares _ asked)
  | swept timeout now =>
    have orderly := sane.blameless.orderly
    refine h.serve ⟨sane.blameless.call _ few ?_, Dispatcher.grows_call orderly _ few⟩
    rintro id ⟨_, _, _, ⟨⟩, _⟩

/-- The board stays in order, and grows. -/
theorem Moves.orderly (step : S.Moves T) (h : S.served.dispatcher.state.Orderly config) :
    T.served.dispatcher.state.Orderly config ∧ (T.served.Few → S.served.Few) := by
  have advance {α : Type} {v : Served} {loop loop' : Loop α}
      (step : Advance S.served loop v loop') : v.dispatcher.state.Orderly config ∧
        S.served.dispatcher.state.board.jobs.size ≤ v.dispatcher.state.board.jobs.size := by
    cases step with
    | serve x => exact orderly_ask h _ x
    | note | alone | send | receive | unserved | unanswered => exact ⟨h, le_rfl⟩
  cases step with
  | work step => exact ⟨(advance step).1, (advance step).2.trans_lt⟩
  | pings step => exact ⟨(advance step).1, (advance step).2.trans_lt⟩
  | late c x | asked c x =>
    have served := orderly_ask h c x
    exact ⟨served.1, served.2.trans_lt⟩
  | swept timeout now =>
    exact ⟨h.perform now (.sweepLostContact timeout),
      (h.size_le now (.sweepLostContact timeout)).trans_lt⟩

theorem Lawful.run (h : S.Lawful config uuid) (run : ReflTransGen MovesTimely S T) :
    T.served.dispatcher.state.Orderly config ∧ (T.served.Few → T.Lawful config uuid) := by
  induction run with
  | refl => exact ⟨h.work.sane.blameless.orderly, fun _ => h⟩
  | tail _ step ih =>
    obtain ⟨orderly, lawful⟩ := ih
    obtain ⟨orderly', back⟩ := step.1.orderly orderly
    exact ⟨orderly', fun few => (lawful (back few)).moves step few⟩

theorem lawful_start (config : Config) (payload : PayloadStore)
    (steps : List (BuildDispatch.Step Dispatcher.Call)) {info : Snapshot}
    (free : info.currentJob = none) (checksum : Option String) (most most' : Nat) :
    Lawful config info.uuid
      (start info (Dispatcher.session config payload steps).state checksum most most') := by
  have orderly := Dispatcher.orderly_session config payload steps
  have opened : (Dispatcher.session config payload steps).state.board.Open :=
    Dispatcher.open_session config payload steps
  generalize (Dispatcher.session config payload steps).state = d at orderly opened
  have sane : Sane config info.uuid ⟨.start info, .start d⟩ := by
    refine ⟨⟨orderly, opened, ?_, fun asked => absurd asked List.not_mem_nil⟩, rfl, rfl, ?_, nofun⟩
    · rintro id ⟨e, asked, -⟩
      exact absurd asked List.not_mem_nil
    · intro job busy
      cases free.symm.trans busy
  have work := Minds.rounds (fun _ idle => workRound_minds idle checksum) most ⟨sane, rfl⟩
  have pings :=
    Minds.rounds (fun _ _ => pingRound_steady.mono fun _ _ done => done.1.sane) most' sane
  exact ⟨work.lawful sane, pings.lawful sane⟩

/-! Runs, step by step. -/

section Runs

variable {v w : Served} {work work' : Loop (Option WorkerExit)} {pings : Loop (Option Unit)}

theorem works (step : Advance v work w work')
    (rest : ReflTransGen MovesTimely ⟨w, work', pings⟩ T) :
    ReflTransGen MovesTimely ⟨v, work, pings⟩ T :=
  .head ⟨.work step, fun moved => absurd rfl moved⟩ rest

/-- The work loop makes a call, which is served at once. -/
theorem calls {β : Type} {past : Program.Trace Action} {c : Call β}
    {next : Except CallError β → Script (Option WorkerExit)} (x : Circumstances)
    (answer : Except CallError β) (served : answer = (c.ask x v.dispatcher).1)
    (rest : ReflTransGen MovesTimely ⟨{ v with dispatcher := (c.ask x v.dispatcher).2 },
      ⟨⟨_, .call c, answer⟩ :: past, .ready (next answer)⟩, pings⟩ T) :
    ReflTransGen MovesTimely ⟨v, ⟨past, .ready (.act (.call c) next)⟩, pings⟩ T :=
  works .send (works (.serve x answer served) (works .receive rest))

theorem moves_of_timely (run : ReflTransGen MovesTimely S T) : ReflTransGen Moves S T :=
  ReflTransGen.mono (fun _ _ step => step.1) _ _ run

end Runs

end Scene

/--
Whatever operators and others do, in whichever order the two loops and the dispatcher take their
steps: the job that an agent stops, and each that it reports as cancelled, was taken back before, if
the agent obeys no answer to a ping that is out of date.
-/
theorem gives_up_only_revoked (config : Config) (payload : PayloadStore)
    (steps : List (BuildDispatch.Step Dispatcher.Call)) (info : Snapshot)
    (free : info.currentJob = none) (checksum : Option String) (most most' : Nat) (S : Scene)
    (run : ReflTransGen Scene.MovesTimely
      (.start info (Dispatcher.session config payload steps).state checksum most most') S)
    (few : S.served.Few) :
    (S.served.agent.stopped = some true → ∃ job, S.served.agent.info.currentJob = some job ∧
      Revoked S.served.dispatcher job.buildId) ∧
    ∀ e ∈ S.served.dispatcher.log, ∀ id, e.call.GivesUp info.uuid id →
      Revoked S.served.dispatcher id := by
  have lawful := (Scene.lawful_start config payload steps free checksum most most').run run
  have sane := (lawful.2 few).work.sane
  refine ⟨fun stopped => ?_, fun e asked id => sane.blameless.reported asked⟩
  obtain ⟨job, current, revoked⟩ := sane.armed stopped
  exact ⟨job, current, revoked rfl⟩

/-- A job is cancelled while its agent runs it, and the agent is told so at its next ping. -/
theorem gives_up_only_revoked_cancelled :
    let info := Snapshot.fresh ⟨"host", "10.0.0.1", "u1"⟩ "/agent"
    let s := Dispatcher.session Dispatcher.site (.new none none)
      [⟨.trigger (.material "site" [⟨"repo", "r1"⟩]), 5⟩]
    ∃ S job, ReflTransGen Scene.MovesTimely (.start info s.state none 1 1) S ∧ S.served.Few ∧
      S.served.agent.stopped = some true ∧ S.served.agent.info.currentJob = some job ∧
      Revoked S.served.dispatcher job.buildId := by
  intro info s
  let x (now : Timestamp) : Circumstances := ⟨now, 0, ⟨"ck"⟩, none⟩
  let a : Assignment :=
    ⟨⟨"site", "1", "build", "compile", 1⟩, ⟨∅, [], [], "site/1/build/compile"⟩⟩
  obtain ⟨S, run, few, stopped⟩ : ∃ S,
      ReflTransGen Scene.MovesTimely (.start info s.state none 1 1) S ∧ S.served.Few ∧
      S.served.agent.stopped = some true := by
    refine ⟨_,
      -- The agent asks for work, and takes the job up.
      Scene.works (.note rfl) <| Scene.works (.note rfl) <|
      Scene.calls (x 6) (.ok (.build a)) (by decide +kernel) <|
      Scene.works (.note rfl) <| Scene.works (.note rfl) <|
      .head ⟨.asked (.cancelJob 1) (x 7) (by rintro _ ⟨⟩; trivial),
        fun moved => absurd rfl moved⟩ <|
      -- It pings, and obeys the answer.
      .head ⟨.pings (.alone (b := true) trivial), fun _ => nofun⟩ <|
      .head ⟨.pings (.note rfl), fun _ => nofun⟩ <| .head ⟨.pings .send, fun _ => nofun⟩ <|
      .head ⟨.pings (.serve (x 8) (.ok ⟨true⟩) (by decide +kernel)), fun _ => nofun⟩ <|
      .head ⟨.pings .receive, fun _ => nofun⟩ <|
      .head ⟨.pings (.note rfl), fun _ _ told => by cases told; rfl⟩ .refl, ?_, rfl⟩
    unfold Served.Few Board.Few
    decide +kernel
  obtain ⟨job, current, revoked⟩ := (gives_up_only_revoked Dispatcher.site (.new none none) _ info
    rfl none 1 1 S run few).1 stopped
  exact ⟨S, job, run, few, stopped, current, revoked⟩

/--
The agent pings while it runs a job that is then made again, and it is at the copy when it is told
to stop: it reports the copy as cancelled, which nobody has taken back.
-/
theorem gives_up_another_job :
    let info := Snapshot.fresh ⟨"host", "10.0.0.1", "u1"⟩ "/agent"
    let s := Dispatcher.session Dispatcher.site (.new none none)
      [⟨.trigger (.material "site" [⟨"repo", "r1"⟩]), 5⟩]
    ∃ S job, ReflTransGen Scene.Moves (.start info s.state none 2 1) S ∧ S.served.Few ∧
      S.served.agent.stopped = some true ∧ S.served.agent.info.currentJob = some job ∧
      ¬Revoked S.served.dispatcher job.buildId ∧
      ∃ e ∈ S.served.dispatcher.log, e.call.GivesUp "u1" job.buildId := by
  intro info s
  let x (now : Timestamp) : Circumstances := ⟨now, 0, ⟨"ck"⟩, none⟩
  let a (id : BuildId) : Assignment :=
    ⟨⟨"site", "1", "build", "compile", id⟩, ⟨∅, [], [], "site/1/build/compile"⟩⟩
  have early : ReflTransGen Scene.MovesTimely (.start info s.state none 2 1) _ :=
    -- The agent takes up the first job, and sends a ping.
    Scene.works (.note rfl) <| Scene.works (.note rfl) <|
    Scene.calls (x 6) (.ok (.build (a 1))) (by decide +kernel) <|
    Scene.works (.note rfl) <| Scene.works (.note rfl) <|
    .head ⟨.pings (.alone (b := true) trivial), fun _ => nofun⟩ <|
    .head ⟨.pings (.note rfl), fun _ => nofun⟩ <| .head ⟨.pings .send, fun _ => nofun⟩ <|
    -- The job is made again: the agent's report on it is refused, and it takes up the copy.
    .head ⟨.asked (.rescheduleJob 1) (x 7) (by rintro _ ⟨⟩; trivial),
      fun moved => absurd rfl moved⟩ <|
    Scene.works (.note rfl) <|
    Scene.calls (x 8) (.ok (.rejected .terminal)) (by decide +kernel) <|
    Scene.works (.note rfl) <| Scene.works (.note rfl) <|
    Scene.works (.note rfl) <| Scene.works (.note rfl) <|
    Scene.calls (x 9) (.ok (.build (a 2))) (by decide +kernel) <|
    Scene.works (.note rfl) <| Scene.works (.note rfl) <|
    -- Only now is the ping served, as what it says of the first job is.
    .head ⟨.pings (.serve (x 10) (.ok ⟨true⟩) (by decide +kernel)), fun _ => nofun⟩ <|
    .head ⟨.pings .receive, fun _ => nofun⟩ .refl
  refine ⟨_, (a 2).job, (Scene.moves_of_timely early).trans <| .head (.pings (.note rfl)) <|
    Scene.moves_of_timely <|
    Scene.works (.note rfl) <|
    Scene.calls (x 11) (.ok .accepted) (by decide +kernel) <|
    Scene.works (.alone (b := true) trivial) <| Scene.works (.note rfl) <|
    Scene.calls (x 12) (.ok .accepted) (by decide +kernel) <|
    -- There are no tasks, but the token of the copy is tripped.
    Scene.works (.note rfl) <| Scene.works (.note rfl) <| Scene.works (.note rfl) <|
    Scene.calls (x 13) (.ok .accepted) (by decide +kernel) .refl, ?_, rfl, rfl, ?_, ?_⟩
  · unfold Served.Few Board.Few
    decide +kernel
  · decide +kernel
  · decide +kernel

end BuildDispatch.Worker
