import BuildDispatch.Proofs.Worker.Reliance

/-!
Both loops of an agent keep to their guarantees (`Worker.workRound_minds`,
`Worker.pingRound_steady`): the work loop stops a job and reports it as cancelled only if it was
taken back, and the ping loop stops no other job if it obeys no answer that is out of date.
-/
namespace BuildDispatch.Worker

open Dispatcher (Handed Revoked)

variable {α β : Type} {config : Config} {uuid : String} {side : Side} {v w : Served}

/-- A script keeps to the guarantees of its loop; what holds of its value and the state after it. -/
def Minds (config : Config) (uuid : String) (side : Side) (post : α → Served → Prop) (p : Script α)
    (v : Served) : Prop :=
  ∀ past, Program.Safe (Rule config uuid side) (Fine config uuid side) (fun m a => post a m.state) p
    ⟨past, v⟩

/-- A script after which its loop still finds what it counts on. -/
abbrev Steady (config : Config) (uuid : String) (side : Side) (post : α → Served → Prop)
    (p : Script α) (v : Served) : Prop :=
  Minds config uuid side (fun a w => Since config uuid side v w ∧ post a w) p v

namespace Minds

variable {post post' : α → Served → Prop} {p : Script α}

theorem mono (h : Minds config uuid side post p v) (values : ∀ a w, post a w → post' a w) :
    Minds config uuid side post' p v :=
  fun past => (h past).mono (fun _ _ _ fine => fine) fun m a => values a m.state

theorem pure {a : α} (h : post a v) : Minds config uuid side post (Pure.pure a : Script α) v :=
  fun _ => h

theorem bind {post : β → Served → Prop} {f : α → Script β}
    (h : Minds config uuid side (fun a w => Minds config uuid side post (f a) w) p v) :
    Minds config uuid side post (p >>= f) v :=
  fun past => .bind ((h past).mono (fun _ _ _ fine => fine) fun m _ rest => rest m.past)

theorem rounds {ρ : Type} {keeps : Served → Prop} {round : Unit → Script (Program.Round Unit ρ)}
    (h : ∀ v, keeps v → Minds config uuid side (fun _ w => keeps w) (round ()) v) (most : Nat)
    (start : keeps v) :
    Minds config uuid side (fun _ w => keeps w) (Program.rounds round most ()) v := by
  induction most generalizing v with
  | zero => exact .pure start
  | succ most ih =>
    refine .bind ((h v start).mono fun r w kept => ?_)
    cases r with
    | again => exact ih kept
    | stop => exact .pure kept

theorem lawful (h : Minds config uuid side post p v) (sane : Sane config uuid v) :
    Lawful config uuid side v ⟨[], .ready p⟩ where
  script := ⟨v, .refl sane, (h []).mono (fun _ _ _ fine => fine) fun _ _ _ => trivial⟩
  told := trivial
  honest _ before := absurd before List.not_mem_nil

theorem change {f : WorkerState → WorkerState} {post : Served → Prop}
    (fine : ∀ w, Since config uuid side v w → Sane config uuid { w with agent := f w.agent } ∧
      side.other.Keeps w.agent (f w.agent))
    (h : ∀ w, Since config uuid side v w → Sane config uuid { w with agent := f w.agent } →
      post { w with agent := f w.agent }) :
    Minds config uuid side (fun _ => post) (Worker.change f) v := by
  refine fun past => .ask (fun w since _ => fine w since) ?_
  rintro a _ ⟨sane, w, since, -, rfl⟩
  exact h w since sane

end Minds

namespace Steady

variable {post : α → Served → Prop} {p : Script α}

theorem pure {a : α} (sane : Sane config uuid v) (h : post a v) :
    Steady config uuid side post (Pure.pure a : Script α) v :=
  Minds.pure ⟨.refl sane, h⟩

theorem bind {post' : β → Served → Prop} {f : α → Script β}
    (h : Steady config uuid side post p v)
    (rest : ∀ a w, Since config uuid side v w → post a w → Steady config uuid side post' (f a) w) :
    Steady config uuid side post' (p >>= f) v := by
  refine Minds.bind (Minds.mono h fun a w before => Minds.mono (rest a w before.1 before.2) ?_)
  exact fun b u after => ⟨before.1.trans after.1, after.2⟩

theorem look {f : WorkerState → α} :
    Steady config uuid side (fun a w => a = f w.agent) (Worker.look f) v := by
  refine fun past => .ask (fun w since _ => ⟨since.sane, .refl⟩) ?_
  rintro a _ ⟨-, w, since, rfl, rfl⟩
  exact ⟨since, rfl⟩

theorem call {c : Call β} (honest : c.Honest uuid v.dispatcher) :
    Steady config uuid side (fun answer w => c.Informs uuid w.dispatcher answer)
      (Worker.call c) v :=
  fun _ => .ask honest fun _ _ informed => informed

/-- An action that is neither a note nor a call. -/
theorem alone {x : Action β} (fine : ∀ m, Fine config uuid side m β x)
    (ends : ∀ b w, Rule config uuid side β v x b w →
      Since config uuid side v w ∧ EndsAlone w.agent β x b) :
    Steady config uuid side (fun b w => EndsAlone w.agent β x b) (Program.ask x) v :=
  fun _ => .ask (fine _) ends

/-- A change to anything but what either loop counts on. -/
theorem change {f : WorkerState → WorkerState}
    (sane : ∀ w, Since config uuid side v w → Sane config uuid { w with agent := f w.agent })
    (keeps : ∀ (side : Side) s, side.Keeps s (f s)) :
    Steady config uuid side (fun _ _ => True) (Worker.change f) v :=
  Minds.change (fun w since => ⟨sane w since, keeps _ _⟩) fun _ since sane =>
    ⟨⟨sane, since.grows, since.keeps.trans (keeps _ _)⟩, trivial⟩

end Steady

theorem refreshCookie_steady :
    Steady config uuid side (fun _ _ => True) refreshCookie v := by
  refine .bind .look fun info _ _ _ => .bind (.call trivial) fun answer t since _ => ?_
  cases answer with
  | error e => exact .pure since.sane trivial
  | ok cookie =>
    have renewed : Steady config uuid side (fun _ _ => True)
        (Worker.change (·.withCookie cookie)) t :=
      .change (fun _ since => since.sane.change rfl rfl rfl rfl)
        fun _ _ => Side.keeps_of_same rfl rfl
    exact .bind renewed fun _ _ since _ => .pure since.sane trivial

theorem recover_steady (sane : Sane config uuid v) (e : CallError) :
    Steady config uuid side (fun _ _ => True) (recover e) v := by
  unfold recover
  split
  · exact .bind refreshCookie_steady fun _ _ since _ => .pure since.sane trivial
  · exact .pure sane trivial

theorem announce_steady (job : JobRef) (state : JobState) :
    Steady config uuid .work (fun _ _ => True) (announce job state) v := by
  refine .bind .look fun info _ _ _ => .bind (.call trivial) fun answer t since _ => ?_
  split
  · exact .pure since.sane trivial
  · exact .pure since.sane trivial
  · split
    · exact .pure since.sane trivial
    · exact .bind (recover_steady since.sane _) fun _ _ since _ => .pure since.sane trivial

theorem Sane.trip (sane : Sane config uuid v)
    (revoked : ∀ job, v.agent.info.currentJob = some job → Revoked v.dispatcher job.buildId) :
    Sane config uuid { v with agent := v.agent.trip } := by
  refine ⟨sane.blameless, sane.named, sane.serves, sane.given, fun stopped => ?_⟩
  obtain ⟨_, armed, -⟩ := Option.map_eq_some_iff.1 stopped
  obtain ⟨job, current, -⟩ := sane.armed armed
  exact ⟨job, current, fun _ => revoked job current⟩

theorem Side.keeps_trip (side : Side) (s : WorkerState) : side.Keeps s s.trip :=
  keeps_of_same rfl Option.isSome_map

/-- The agent is at a job, and has armed its token. -/
structure Busy (config : Config) (uuid : String) (job : JobRef) (v : Served) : Prop where
  sane : Sane config uuid v
  current : v.agent.info.currentJob = some job
  armed : v.agent.stopped.isSome = true

namespace Busy

variable {job : JobRef} (h : Busy config uuid job v)
include h

theorem since (later : Since config uuid .work v w) : Busy config uuid job w :=
  ⟨later.sane, later.keeps.1.trans h.current, later.keeps.2.trans h.armed⟩

theorem handed : Handed uuid v.dispatcher.log job.buildId := h.sane.given h.current

/-- A job that is to stop was taken back. -/
theorem revoked (tripped : v.agent.isTripped = true) : Revoked v.dispatcher job.buildId := by
  have stopped : v.agent.stopped = some true := by
    simpa [WorkerState.isTripped, h.sane.serves] using tripped
  obtain ⟨job', current, revoked⟩ := h.sane.armed stopped
  rw [h.current] at current
  cases current
  exact revoked rfl

theorem checkIgnored_steady :
    Steady config uuid .work (fun _ _ => True) (checkIgnored job) v := by
  refine .bind (.call h.handed) fun answer w since informed => ?_
  rcases answer with e | (_ | _)
  · exact .pure since.sane trivial
  · exact .pure since.sane trivial
  · refine .change (fun u later => later.sane.trip fun job' current => ?_) Side.keeps_trip
    cases (later.keeps.1.trans (h.since since).current).symm.trans current
    exact later.grows.revoked (informed rfl)

theorem runTasks_steady (environment : List Variable) (tasks : List Task) :
    Steady config uuid .work (fun r w => r = .cancelled → Revoked w.dispatcher job.buildId)
      (runTasks job environment tasks) v := by
  induction tasks generalizing v with
  | nil =>
    refine .bind .look ?_
    rintro _ w since rfl
    refine .pure since.sane fun result => (h.since since).revoked ?_
    by_contra untripped
    rw [if_neg untripped] at result
    cases result
  | cons task rest ih =>
    refine .bind h.checkIgnored_steady fun _ w since _ => .bind .look ?_
    rintro _ t since' rfl
    have busy := (h.since since).since since'
    split
    case isTrue tripped => exact .pure since'.sane fun _ => busy.revoked tripped
    case isFalse =>
      refine .bind (.alone (fun _ => trivial) fun _ _ => id) fun outcome u since killed => ?_
      cases outcome with
      | succeeded => exact ih (busy.since since)
      | failed => exact .pure since.sane nofun
      | cancelled => exact .pure since.sane fun _ => (busy.since since).revoked (killed rfl)

end Busy

/-- A job is run, and given up only if it was taken back. -/
theorem execute_steady {a : Assignment} (h : Busy config uuid a.job v) :
    Steady config uuid .work
      (fun r w => r = some .cancelled → Revoked w.dispatcher a.job.buildId) (execute a) v := by
  refine .bind (announce_steady _ _) fun further w since _ => ?_
  cases further with
  | false => exact .pure since.sane nofun
  | true =>
    refine .bind (.alone (fun _ => trivial) fun _ _ => id) fun made t since' _ => ?_
    cases made with
    | false => exact .pure since'.sane nofun
    | true =>
      refine .bind (announce_steady _ _) fun further u since'' _ => ?_
      cases further with
      | false => exact .pure since''.sane nofun
      | true =>
        have busy := ((h.since since).since since').since since''
        refine .bind (busy.runTasks_steady _ _) fun r u since revoked => ?_
        exact .pure since.sane fun result => revoked (Option.some.inj result)

theorem pause_steady {post : α → Served → Prop} {p : Script α} (sane : Sane config uuid v)
    (pauses : Bool)
    (h : ∀ w, Since config uuid .work v w → Steady config uuid .work post p w) :
    Steady config uuid .work post (if pauses then do Program.ask .pause; p else p) v := by
  cases pauses with
  | false => exact h v (.refl sane)
  | true => exact .bind (.alone (fun _ => trivial) fun _ _ => id) fun _ w since _ => h w since

theorem deliver_steady (sane : Sane config uuid v) (phase : Phase) {job : JobRef}
    {result : JobResult} (excused : result = .cancelled → Revoked v.dispatcher job.buildId)
    (left : Nat) :
    Steady config uuid .work (fun _ _ => True) (deliver phase job result left) v := by
  induction left generalizing v with
  | zero => exact .pure sane trivial
  | succ left ih =>
    refine .bind .look fun info w since _ => ?_
    have honest : (phase.call info job result).Honest uuid w.dispatcher := by
      cases phase <;> exact fun gives => since.grows.revoked (excused gives)
    refine .bind (.call honest) fun answer t since' _ => ?_
    have next (refreshed : Bool) {u : Served} (later : Since config uuid .work t u) :=
      pause_steady later.sane (!refreshed && decide (0 < left)) fun x later' =>
        ih later'.sane fun gives =>
          (((since.trans since').trans later).trans later').grows.revoked (excused gives)
    cases answer with
    | ok => exact .pure since'.sane trivial
    | error e =>
      dsimp only
      split
      · exact .pure since'.sane trivial
      · split
        · exact .bind refreshCookie_steady fun refreshed _ later _ => next refreshed later
        · have unrefreshed : Steady config uuid .work (fun _ _ => True) (pure false) t :=
            .pure since'.sane trivial
          exact .bind unrefreshed fun refreshed _ later _ => next refreshed later

theorem reportCompletion_steady (sane : Sane config uuid v) {job : JobRef} {result : JobResult}
    (excused : result = .cancelled → Revoked v.dispatcher job.buildId) :
    Steady config uuid .work (fun _ _ => True) (reportCompletion job result) v := by
  refine .bind (deliver_steady sane _ excused _) fun own w since _ => ?_
  split
  · refine .bind (deliver_steady since.sane _ ?_ _) fun _ _ since _ => .pure since.sane trivial
    exact fun gives => since.grows.revoked (excused gives)
  · exact .pure since.sane trivial

structure Idle (config : Config) (uuid : String) (v : Served) : Prop where
  sane : Sane config uuid v
  disarmed : v.agent.stopped = none

namespace Idle

theorem since (h : Idle config uuid v) (later : Since config uuid .work v w) :
    Idle config uuid w where
  sane := later.sane
  disarmed := by
    have same := later.keeps.2
    rw [h.disarmed] at same
    exact Option.isSome_eq_false_iff.1 same |> Option.isNone_iff_eq_none.1

/-- The agent takes up a job that was handed to it. -/
theorem takeUp_minds (h : Idle config uuid v) {job : JobRef}
    (handed : Handed uuid v.dispatcher.log job.buildId) :
    Minds config uuid .work (fun _ w => Idle config uuid w ∧ w.agent.info.currentJob = some job)
      (Worker.change (·.building job)) v := by
  refine .change (fun w since => ⟨?_, trivial⟩) fun w since sane =>
    ⟨⟨sane, (h.since since).disarmed⟩, rfl⟩
  refine ⟨since.sane.blameless, since.sane.named, since.sane.serves, ?_, fun stopped => ?_⟩
  · rintro _ ⟨⟩
    exact since.grows.handed handed
  · cases (h.since since).disarmed.symm.trans stopped

end Idle

theorem arm_minds {job : JobRef} (current : v.agent.info.currentJob = some job) :
    Minds config uuid .work (fun _ w => Busy config uuid job w) (Worker.change (·.arm)) v := by
  refine .change (fun w since => ⟨?_, trivial⟩) fun w since sane =>
    ⟨sane, since.keeps.1.trans current, rfl⟩
  refine ⟨since.sane.blameless, since.sane.named, since.sane.serves, since.sane.given, ?_⟩
  rintro _ ⟨⟩
  exact ⟨job, since.keeps.1.trans current, nofun⟩

theorem leave_minds :
    Minds config uuid .work (fun _ w => Idle config uuid w)
      (do Worker.change (·.disarm); Worker.change (·.idle)) v := by
  have disarms : Minds config uuid .work (fun _ w => Idle config uuid w)
      (Worker.change (·.disarm)) v := by
    refine .change (fun w since => ⟨?_, trivial⟩) fun w since sane => ⟨sane, rfl⟩
    exact ⟨since.sane.blameless, since.sane.named, since.sane.serves, since.sane.given, nofun⟩
  refine .bind (disarms.mono fun _ w h =>
    .change (fun u since => ⟨?_, trivial⟩) fun u since sane => ?_)
  · refine ⟨since.sane.blameless, since.sane.named, since.sane.serves, nofun, fun stopped => ?_⟩
    cases (h.since since).disarmed.symm.trans stopped
  · exact ⟨sane, (h.since since).disarmed⟩

/-- A job is taken up, run, reported on and dropped. -/
theorem runJob_minds (h : Idle config uuid v) {a : Assignment}
    (handed : Handed uuid v.dispatcher.log a.job.buildId) :
    Minds config uuid .work (fun _ w => Idle config uuid w) (runJob a) v := by
  refine .bind ((h.takeUp_minds handed).mono fun _ w taken => ?_)
  refine .bind ((arm_minds taken.2).mono fun _ t busy => ?_)
  refine .bind ((execute_steady busy).mono ?_)
  rintro r u ⟨since, excused⟩
  cases r with
  | none => exact leave_minds
  | some result =>
    have reports {x : Served} (later : Since config uuid .work u x) :
        Minds config uuid .work (fun _ w => Idle config uuid w)
          (do reportCompletion a.job result; Worker.change (·.disarm); Worker.change (·.idle))
          x := by
      have excused (gives : result = .cancelled) : Revoked x.dispatcher a.job.buildId :=
        later.grows.revoked (excused (congrArg some gives))
      exact .bind ((reportCompletion_steady later.sane excused).mono fun _ _ _ => leave_minds)
    dsimp only
    split
    · have told : Steady config uuid .work (fun _ _ => True) (Worker.change (·.cancelled)) u :=
        .change (fun _ since => since.sane.change rfl rfl rfl rfl)
          fun _ _ => Side.keeps_of_same rfl rfl
      exact .bind (told.mono fun _ _ done => reports done.1)
    · exact reports (.refl since.sane)

theorem upgradeAvailable_steady (sane : Sane config uuid v) (checksum : Option String) :
    Steady config uuid .work (fun _ _ => True) (upgradeAvailable checksum) v := by
  cases checksum with
  | none => exact .pure sane trivial
  | some ours =>
    refine .bind (.call trivial) fun answer w since _ => ?_
    cases answer with
    | ok | error => exact .pure since.sane trivial

theorem restRound_steady : Steady config uuid .work (fun _ _ => True) restRound v := by
  refine .bind (.alone (fun _ => trivial) fun _ _ => id) fun waited w since _ => ?_
  cases waited with
  | true | false => exact .pure since.sane trivial

theorem workRound_minds (h : Idle config uuid v) (checksum : Option String) :
    Minds config uuid .work (fun _ w => Idle config uuid w) (workRound checksum ()) v := by
  have rests {w : Served} (h : Idle config uuid w) :
      Minds config uuid .work (fun _ w => Idle config uuid w) restRound w :=
    restRound_steady.mono fun _ _ done => h.since done.1
  refine .bind (Steady.look.mono ?_)
  rintro down w ⟨since, -⟩
  cases down with
  | true => exact .pure (h.since since)
  | false =>
    refine .bind ((upgradeAvailable_steady since.sane _).mono ?_)
    rintro upgrade t ⟨since', -⟩
    have idle := (h.since since).since since'
    cases upgrade with
    | true => exact .pure idle
    | false =>
      refine .bind (Steady.look.mono ?_)
      rintro _ u ⟨since, rfl⟩
      have idle := idle.since since
      refine .bind ((Steady.call (show Call.Honest uuid _ (.getWork u.agent.info) from
        idle.sane.named)).mono ?_)
      rintro answer x ⟨since, informed⟩
      have idle := idle.since since
      rcases answer with e | work
      · exact .bind ((recover_steady since.sane e).mono fun _ _ done => rests (idle.since done.1))
      · cases work with
        | build a => exact .bind ((runJob_minds idle informed).mono fun _ _ idle => .pure idle)
        | noWork | deny => exact rests idle

/-- The ping loop stops no job but one that was taken back. -/
theorem pingRound_steady :
    Steady config uuid .pings (fun _ _ => True) (pingRound ()) v := by
  refine .bind (.alone (fun _ => trivial) fun _ _ => id) fun more w since _ => ?_
  cases more with
  | false => exact .pure since.sane trivial
  | true =>
    refine .bind .look ?_
    rintro _ t since rfl
    -- What is fine from here on depends on the answer that came last.
    refine fun past => ⟨fun job busy => since.sane.given busy, fun answer u told => ?_⟩
    obtain ⟨since, informed⟩ := told
    rcases answer with e | (_ | _)
    · have recovers : Minds config uuid .pings (fun _ w => Since config uuid .pings t w ∧ True)
          (do recover e; return Program.Round.again () : Script (Program.Round Unit Unit)) u :=
        .bind ((recover_steady since.sane e).mono fun _ _ done =>
          .pure ⟨since.trans done.1, trivial⟩)
      exact recovers _
    · exact ⟨since, trivial⟩
    · refine ⟨fun w later timely => ⟨?_, Side.keeps_trip _ _⟩, ?_⟩
      · refine later.sane.trip fun job current => later.grows.revoked (informed rfl job ?_)
        exact (timely rfl _ rfl).symm.trans current
      · rintro _ _ ⟨sane, w, later, -, rfl⟩
        exact ⟨⟨sane, since.grows.trans later.grows, trivial⟩, trivial⟩

end BuildDispatch.Worker
