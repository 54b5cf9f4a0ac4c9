import BuildDispatch.Proofs.Worker.Conversation

/-!
What makes an agent wish for another payload. Either it could not register because its protocol is
no longer spoken, or it was told right before that a payload is published other than its own
(`serve_prompted`).
-/
namespace BuildDispatch.Worker

open Program (Round)

/-- Whether an action is the call with which an agent begins. -/
def Action.isGreeting {β : Type} : Action β → Bool
  | .call .hello => true
  | _ => false

/-- What an agent that wishes for an upgrade was told last. The latest action comes first. -/
inductive Prompted (checksum : Option String) : Program.Trace Action → Prop where
  | unspoken {e : CallError} {earlier : Program.Trace Action}
    (kind : e.kind? = some .unsupportedProtocol) (unregistered : signs earlier = []) :
    Prompted checksum (⟨_, .call .hello, .error e⟩ :: earlier)
  | published {n : Manifest} {ours : String} {earlier : Program.Trace Action}
    (launched : checksum = some ours) (other : n.checksum ≠ ours) :
    Prompted checksum (⟨_, .call .payloadManifest, .ok n⟩ :: earlier)

/-- What holds once a script is done, whatever was answered. -/
abbrev Concludes {α : Type} : (Moment → α → Prop) → Script α → Moment → Prop :=
  Program.Safe Step fun _ _ _ => True

def Silent (m : Moment) : Prop := signs m.past = []

theorem refreshCookie_silent {m : Moment} (h : Silent m) :
    Concludes (fun m _ => Silent m) refreshCookie m := by
  refine .bind (.ask trivial fun info t _ => .bind (.ask trivial fun answer u _ => ?_))
  cases answer with
  | ok cookie => exact .bind (.ask trivial fun _ _ _ => h)
  | error e => exact h

theorem registerRound_prompted (checksum : Option String) {m : Moment} (h : Silent m) :
    Concludes (fun m => Round.Meets (fun _ => Silent m)
      fun exit => exit = some .upgrade → Prompted checksum m.past) (registerRound ()) m := by
  have rests (registered : Bool) (m : Moment) (h : Silent m) :
      Concludes (fun m => Round.Meets (fun _ => Silent m)
        fun exit => exit = some .upgrade → Prompted checksum m.past) (do
          if registered then return .stop none
          return if ← Program.ask .rest then .again () else .stop (some .shutdown) :
          Script (Round Unit (Option WorkerExit))) m := by
    cases registered with
    | true => exact nofun
    | false =>
      refine .bind (.ask trivial fun waited t _ => ?_)
      cases waited with
      | false => exact nofun
      | true => exact h
  refine .bind (.ask trivial fun answer t _ => ?_)
  rcases answer with e | greeting
  · dsimp only
    split
    case isTrue kind => exact fun _ => .unspoken kind h
    case isFalse => exact rests false _ h
  · have greeted : Silent (m.after (.call .hello) (.ok greeting) t) := h
    refine .bind ((refreshCookie_silent greeted).mono (fun _ _ _ here => here) ?_)
    exact fun m registered h => rests registered m h

theorem upgradeAvailable_prompted (checksum : Option String) (m : Moment) :
    Concludes (fun m upgrade => upgrade = true → Prompted checksum m.past)
      (upgradeAvailable checksum) m := by
  cases checksum with
  | none => exact nofun
  | some ours =>
    refine .bind (.ask trivial fun answer t _ => ?_)
    cases answer with
    | error e => exact nofun
    | ok n => exact fun other => .published rfl (of_decide_eq_true other)

theorem workRound_prompted (checksum : Option String) (m : Moment) :
    Concludes (fun m => Round.Meets (fun _ => True)
      fun exit => exit = .upgrade → Prompted checksum m.past) (workRound checksum ()) m := by
  have rests (m : Moment) : Concludes (fun m => Round.Meets (fun _ => True)
      fun exit => exit = .upgrade → Prompted checksum m.past) restRound m := by
    refine .bind (.ask trivial fun waited t _ => ?_)
    cases waited with
    | false => exact nofun
    | true => exact trivial
  refine .bind (.ask trivial fun down t _ => ?_)
  cases down with
  | true => exact nofun
  | false =>
    refine .bind ((upgradeAvailable_prompted checksum _).mono (fun _ _ _ here => here) ?_)
    intro m upgrade prompted
    cases upgrade with
    | true => exact fun _ => prompted rfl
    | false =>
      refine .bind (.ask trivial fun info u _ => .bind (.ask trivial fun answer v _ => ?_))
      rcases answer with e | work
      · exact .bind ((Program.Safe.trivial (recover e) _).mono (fun _ _ _ here => here)
          fun m _ _ => rests m)
      · cases work with
        | build a =>
          exact .bind ((Program.Safe.trivial (runJob a) _).mono (fun _ _ _ here => here)
            fun _ _ _ => trivial)
        | noWork => exact rests _
        | deny reason => exact rests _

theorem serve_prompted (checksum : Option String) (most : Nat) {m : Moment} (h : Silent m) :
    Concludes (fun m exit => exit = some .upgrade → Prompted checksum m.past)
      (serve checksum most) m := by
  have registers := Program.Safe.rounds (fun _ m h => registerRound_prompted checksum (m := m) h)
    most (s := ()) h
  refine .bind (registers.mono (fun _ _ _ here => here) fun m r prompted => ?_)
  match r with
  | none => exact nofun
  | some (some exit) => exact prompted
  | some none =>
    have works := Program.Safe.rounds (fun _ m (_ : True) => workRound_prompted checksum m) most
      (s := ()) (m := m) trivial
    refine works.mono (fun _ _ _ here => here) fun m r prompted leaves => ?_
    subst leaves
    exact prompted rfl

end BuildDispatch.Worker
