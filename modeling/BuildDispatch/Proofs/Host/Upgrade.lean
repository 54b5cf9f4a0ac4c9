import BuildDispatch.Proofs.Host.Relaunch
import BuildDispatch.Proofs.Worker.Prompt
import Mathlib.Logic.Relation

/-!
How one payload follows another on a host. An agent leaves for an upgrade only when it was just told
that another payload is published than its own, and with no job in progress. Its supervisor then
comes to launch the published one (`Host.upgrades_to_published`).
-/
namespace BuildDispatch

theorem HostSettings.agent_checksum_iff {c : HostSettings} {p : InstalledPayload} {ours : String} :
    (c.agent p).checksum = some ours ↔ ours = p.manifest.checksum ∧ ours ≠ "" := by
  change (Table.get? _ _).filter _ = some ours ↔ _
  rw [Table.get?_insert_self, Option.filter_eq_some_iff, decide_eq_true_iff]
  exact and_congr_left fun _ => ⟨fun h => (Option.some.inj h).symm, fun h => congrArg some h.symm⟩

namespace Host

open Relation (ReflTransGen)
open Supervisor (Placed Resumes afterLaunch)

/--
What is left to a supervisor is what follows its last launch. An agent runs the payload in its place
and has served since it started without a job, and its end is told to the supervisor that launched
it.
-/
inductive Kept (c : HostSettings) : Host → Prop where
  | watching {published : Publication} {m : Supervisor.Moment Supervisor.Disk} {rest : Watch}
    (resumes : Resumes c.supervisor m rest) : Kept c ⟨published, m.state, .watching rest⟩
  | serving {published : Publication} {m : Supervisor.Moment Supervisor.Disk} {n : Manifest}
    {crashes : UInt32} {left : Nat} {info : Snapshot} {most : Nat} {now : Worker.Moment}
    {rest : Service} (there : Placed c.supervisor m n)
    (later : ∀ stop, Resumes c.supervisor
      (m.after (.launch ⟨c.supervisor.payloadPath, n⟩) stop m.state)
      (afterLaunch c.supervisor crashes n.checksum left stop))
    (idle : (info.status, info.currentJob) = (.idle, none))
    (reached : Program.Reaches Worker.Step ⟨[], .start info⟩
      (Worker.serve (c.agent ⟨c.supervisor.payloadPath, n⟩).checksum most) now rest) :
    Kept c ⟨published, m.state, .serving ⟨c.supervisor.payloadPath, n⟩
      (afterLaunch c.supervisor crashes n.checksum left) now rest⟩

variable {c : HostSettings} {h h' : Host}

theorem Kept.moves (kept : Kept c h) (move : Moves c h h') : Kept c h' := by
  cases move with
  | watch apart step told =>
    obtain ⟨resumes⟩ := kept
    cases resumes with
    | launch => cases apart
    | aside _ later => exact .watching (later _ _ step)
  | launch most idle =>
    obtain ⟨resumes⟩ := kept
    cases resumes with
    | launch there later => exact .serving there later idle .start
    | aside apart => cases apart
  | serve step shown =>
    obtain _ | ⟨there, later, idle, reached⟩ := kept
    exact .serving there later idle (reached.act step)
  | leave exit ranFor =>
    cases kept with
    | @serving _ m n _ _ _ _ _ _ _ later =>
      exact .watching (m := m.after (.launch ⟨_, n⟩) _ m.state) (later _)
  | perish stop =>
    cases kept with
    | @serving _ m n _ _ _ _ _ _ _ later =>
      exact .watching (m := m.after (.launch ⟨_, n⟩) stop m.state) (later stop)

theorem Kept.run (kept : Kept c h) (run : ReflTransGen (Moves c) h h') : Kept c h' := by
  induction run with
  | refl => exact kept
  | tail _ move ih => exact ih.moves move

theorem kept_start (most : Nat) (published : Publication) (disk : Supervisor.Disk) :
    Kept c (start c most published disk) :=
  .watching (m := ⟨[], disk⟩) (Supervisor.supervise_resumes most _)

/-- The supervisor of an agent that left for another payload comes to launch the published one. -/
theorem relaunches_afterLaunch {wanted : Publication} {crashes : UInt32} {checksum : String}
    (changed : wanted.manifest.checksum ≠ checksum) (left : Nat) (ranFor : Duration)
    (published : Publication) (disk : Supervisor.Disk) :
    let rest := afterLaunch c.supervisor crashes checksum left (.exited (.code 0) ranFor)
    rest = .done none ∨ Relaunches c wanted ⟨published, disk, .watching rest⟩ := by
  intro rest
  have resumed := Supervisor.afterLaunch_restart c.supervisor crashes checksum left ranFor
  cases left with
  | zero => exact .inl resumed
  | succ left =>
    have other : some checksum ≠ some wanted.manifest.checksum :=
      fun same => changed (Option.some.inj same).symm
    refine .inr ?_
    rw [show rest = _ from resumed]
    exact relaunches_watch other left published disk

/-- What an agent was told last of the publication is what was published before it was told. -/
theorem Moves.told_published {p : InstalledPayload} {told : Supervisor.LaunchEnd → Watch}
    {now : Worker.Moment} {rest : Service} {n : Manifest}
    {earlier : Program.Trace Worker.Action} (move : Moves c h h')
    (serving : h'.activity = .serving p told now rest)
    (last : now.past = ⟨_, .call .payloadManifest, .ok n⟩ :: earlier) :
    n = h.published.manifest ∧ h'.disk = h.disk := by
  cases move with
  | serve step shown =>
    cases serving
    cases last
    exact ⟨shown, rfl⟩
  | launch =>
    cases serving
    cases last
  | _ => cases serving

theorem watches {published : Publication} {m m' : Supervisor.Moment Supervisor.Disk}
    {rest rest' : Watch}
    (run : Program.Reaches (Supervisor.Offered published.manifest) m rest m' rest') :
    ReflTransGen (Moves c) ⟨published, m.state, .watching rest⟩
      ⟨published, m'.state, .watching rest'⟩ := by
  induction run with
  | start => exact .refl
  | @act m β x next b d _ step ih =>
    obtain ⟨step, told⟩ := step
    have apart : x.isLaunch = false := by
      cases x with
      | launch => exact told.elim
      | _ => rfl
    have tells : published.Tells x b := by
      cases x with
      | fetch => exact told.elim
      | manifest =>
        obtain rfl := told
        exact rfl
      | _ => trivial
    exact .tail ih (.watch apart step tells)

theorem serves {published : Publication} {disk : Supervisor.Disk} {p : InstalledPayload}
    {told : Supervisor.LaunchEnd → Watch} {m m' : Worker.Moment} {rest rest' : Service}
    (run : Program.Reaches (fun β s x b t => Worker.Step β s x b t ∧ published.Shows x b) m rest
      m' rest') :
    ReflTransGen (Moves c) ⟨published, disk, .serving p told m rest⟩
      ⟨published, disk, .serving p told m' rest'⟩ := by
  induction run with
  | start => exact .refl
  | act _ step ih => exact .tail ih (.serve step.1 step.2)

/-- A host comes to launch the payload that is published and in place. -/
theorem start_moves_to_launch {published : Publication} {disk : Supervisor.Disk}
    (there : disk c.supervisor.payloadPath = some published.payload) (most : Nat) :
    ReflTransGen (Moves c) (start c (most + 1) published disk) ⟨published, disk, .watching (.act
      (.launch ⟨c.supervisor.payloadPath, published.manifest⟩)
      (afterLaunch c.supervisor 0 published.manifest.checksum most))⟩ := by
  let locked : Supervisor.Moment Supervisor.Disk := ⟨[⟨_, .acquire, true⟩], disk⟩
  have launched := Supervisor.watch_start_reaches_launch (m := locked) most there
    (Manifest.verifies_describe published.version published.payload)
  have acquired : Moves c (start c (most + 1) published disk)
      ⟨published, disk, .watching (Supervisor.watch c.supervisor (most + 1) .start)⟩ := by
    unfold start
    rw [Supervisor.supervise_eq]
    exact .watch (b := true) rfl rfl trivial
  exact .head acquired (watches launched)

/-- A registered agent asks what is published before it polls, and may leave for that. -/
theorem serve_asks (published : Publication) (info : Snapshot) {ours : String} {n : Manifest}
    (other : n.checksum ≠ ours) : ∃ m next,
      Program.Reaches (fun β s x b t => Worker.Step β s x b t ∧ published.Shows x b)
        ⟨[], .start info⟩ (Worker.serve (some ours) 1) m (.act (.call .payloadManifest) next) ∧
      next (.ok n) = .done (some .upgrade) := by
  let At := Program.Reaches (fun β s x b t => Worker.Step β s x b t ∧ published.Shows x b)
    ⟨[], .start info⟩ (Worker.serve (some ours) 1)
  have greeted : At _ _ := .act (b := .ok (1, "")) .start ⟨.call _ _ .nothing, trivial⟩
  have asked : At _ _ := .act greeted ⟨.note _ .nothing, trivial⟩
  have issued : At _ _ := .act (b := .ok ⟨"ck"⟩) asked ⟨.call _ _ .nothing, trivial⟩
  have registered : At _ _ := .act issued ⟨.note _ .nothing, trivial⟩
  have polls : At _ _ := .act registered ⟨.note _ .nothing, trivial⟩
  refine ⟨_, _, polls, ?_⟩
  have leaves : decide (n.checksum ≠ ours) = true := decide_eq_true other
  dsimp only [Program.bind, bind]
  rw [leaves]
  rfl

/--
At every moment of a host, whatever is published when: an agent that wishes for another payload has
handled every job that it was given to the end. Either it was never registered, because its protocol
is no longer spoken, or it was told right before that the published payload's checksum is not the
one of the payload that it was launched from. If so, its supervisor comes to launch the published
payload, with no crash charged and no wait before it, if all goes well and no other one is published
when the supervisor asks; or it has no round left to do so.
-/
theorem upgrades_to_published {most : Nat} {published : Publication} {disk : Supervisor.Disk}
    {p : InstalledPayload} {told : Supervisor.LaunchEnd → Watch} {now : Worker.Moment}
    (reached : ReflTransGen (Moves c) (start c most published disk) h) (move : Moves c h h')
    (leaves : h'.activity = .serving p told now (.done (some .upgrade))) :
    Worker.Conversation (.idle, none) (Worker.signs now.past.reverse) ∧
    ((∃ e earlier, now.past = ⟨_, .call .hello, .error e⟩ :: earlier ∧
        e.kind? = some .unsupportedProtocol ∧ Worker.signs now.past = []) ∨
      (∃ earlier, now.past = ⟨_, .call .payloadManifest, .ok h.published.manifest⟩ :: earlier) ∧
      (∃ launched, h.disk p.path = some launched ∧ Sha256.hex launched = p.manifest.checksum ∧
        Sha256.hex h.published.payload ≠ Sha256.hex launched) ∧
      ∀ ranFor published', told (.exited (.code 0) ranFor) = .done none ∨
        Relaunches c h.published
          ⟨published', h'.disk, .watching (told (.exited (.code 0) ranFor))⟩) := by
  have kept := ((kept_start most published disk).run reached).moves move
  obtain ⟨published', disk', activity⟩ := h'
  obtain rfl : activity = _ := leaves
  cases kept with
  | @serving _ m n crashes left info most _ _ there later idle served =>
    have silent : Worker.Silent ⟨[], .start info⟩ := rfl
    have prompted := (Worker.serve_prompted _ most silent).reached served rfl
    obtain ⟨later', _, _, conversation, whole⟩ := (Worker.serve_yields _ most _).reached served
    -- The agent is done, so it has nothing more to say, about a job or else.
    obtain rfl := whole _ rfl
    rw [List.append_nil] at conversation
    refine ⟨idle ▸ conversation, ?_⟩
    generalize past : now.past = l at prompted
    cases prompted with
    | unspoken kind unregistered => exact .inl ⟨_, _, rfl, kind, unregistered⟩
    | published launched other =>
      -- What the agent was told last, it was told in this very move.
      obtain ⟨rfl, same⟩ := move.told_published rfl past
      obtain ⟨rfl, -⟩ := HostSettings.agent_checksum_iff.1 launched
      obtain ⟨payload, content, verified⟩ := there
      have checksum : Sha256.hex payload = n.checksum :=
        of_decide_eq_true (Bool.and_eq_true_iff.1 verified).2
      refine .inr ⟨⟨_, rfl⟩, ⟨payload, same ▸ content, checksum, ?_⟩, ?_⟩
      · rwa [checksum]
      · exact fun ranFor published' => relaunches_afterLaunch other left ranFor published' m.state

/-- Another payload is published while the agent registers, and is launched next. -/
theorem upgrades_to_published_replaced :
    let c : HostSettings :=
      ⟨⟨"lock", "payload", 5, .ofSecs 2, .ofSecs 600, 5, .ofSecs 2⟩, ∅, "/srv"⟩
    let old : Publication := ⟨"v1", []⟩
    let new : Publication := ⟨"v2", [97]⟩
    let disk : Supervisor.Disk := fun path => if path = "payload" then some [] else none
    ∃ h told now, ReflTransGen (Moves c) (start c 2 old disk) h ∧
      h.activity = .serving ⟨"payload", old.manifest⟩ told now (.done (some .upgrade)) ∧
      Relaunches c new ⟨new, disk, .watching (told (.exited (.code 0) (.ofSecs 1)))⟩ := by
  intro c old new disk
  let p : InstalledPayload := ⟨"payload", old.manifest⟩
  let told := afterLaunch c.supervisor 0 old.manifest.checksum 1
  let info : Snapshot := .fresh ⟨"host", "10.0.0.1", "u"⟩ "/srv"
  obtain ⟨other, named⟩ : new.manifest.checksum ≠ old.manifest.checksum ∧
      old.manifest.checksum ≠ "" := by decide +kernel
  have handed : (c.agent p).checksum = some old.manifest.checksum :=
    HostSettings.agent_checksum_iff.2 ⟨rfl, named⟩
  obtain ⟨m, next, asks, leaves⟩ := serve_asks new info other
  have launched : Moves c ⟨old, disk, .watching (.act (.launch p) told)⟩
      ⟨new, disk, .serving p told ⟨[], .start info⟩ (Worker.serve (c.agent p).checksum 1)⟩ :=
    .launch 1 rfl
  rw [handed] at launched
  have last : Moves c ⟨new, disk, .serving p told m (.act (.call .payloadManifest) next)⟩
      ⟨new, disk, .serving p told (m.after (.call .payloadManifest) (.ok new.manifest) m.state)
        (next (.ok new.manifest))⟩ :=
    .serve (.call _ _ .nothing) rfl
  rw [leaves] at last
  have before := ((start_moves_to_launch rfl 1).tail launched).trans (serves asks)
  refine ⟨_, _, _, before.tail last, rfl, ?_⟩
  obtain ⟨-, ⟨e, earlier, past, -⟩ | ⟨-, -, relaunches⟩⟩ := upgrades_to_published before last rfl
  · cases congrArg (·.head?.map fun x => x.2.1.isGreeting) past
  · exact (relaunches (.ofSecs 1) new).resolve_left nofun

end Host

end BuildDispatch
