import BuildDispatch.Proofs.Dispatcher.Trigger

/-!
Who starts work. Where access is checked, every job goes back to a change of a material or to a user
whom the configuration lets trigger the pipeline (`Dispatcher.only_authorised_start_work`).
-/
namespace BuildDispatch

theorem Pipeline.Usable.exists_firstStage {p : Pipeline} (h : p.Usable) :
    ∃ stage, p.firstStage? = some stage := by
  unfold Pipeline.firstStage?
  cases hs : p.stages with
  | nil => exact absurd hs h.stages
  | cons stage rest => exact ⟨stage, rfl⟩

theorem Pipeline.Usable.firstStage {p : Pipeline} (h : p.Usable) {stage : Stage}
    (first : p.firstStage? = some stage) : stage.Usable :=
  h.usable stage (List.mem_of_mem_head? first)

namespace Trigger

/-- Whether a configuration that checks access lets a trigger set a pipeline off. -/
def Granted (t : Trigger) (config : Config) (p : Pipeline) : Prop :=
  match t with
  | manual _ user _ => user ∈ config.access.admins ∨ user ∈ p.operators
  | material .. => True

section Access

variable {config : Config} (usable : config.Usable) (secured : config.access.enabled = true)
  {p : Pipeline} (listed : p ∈ config.pipelines)
include usable secured listed

theorem refusal?_manual {stage : Stage} (first : p.firstStage? = some stage) (user : String)
    (options : TriggerOptions) :
    (manual p.name user options).refusal? p (.ofConfig config) =
      if user ∈ config.access.admins ∨ user ∈ p.operators then none
      else some (.unauthorized (Permissions.refusal user p.name stage.name)) := by
  have allowed := Permissions.allows_ofConfig usable listed user
  rw [secured] at allowed
  unfold refusal?
  simp only [first, allowed, Bool.true_eq_false, false_or]

theorem granted_of_admitted {t : Trigger} (named : p.name = t.pipeline)
    (admitted : t.refusal? p (.ofConfig config) = none) : t.Granted config p := by
  cases t with
  | material => trivial
  | manual pipeline user options =>
    change p.name = pipeline at named
    subst named
    obtain ⟨stage, first⟩ := (usable.usable p listed).exists_firstStage
    rw [refusal?_manual usable secured listed first] at admitted
    by_contra refused
    change ¬(user ∈ config.access.admins ∨ user ∈ p.operators) at refused
    rw [if_neg refused] at admitted
    cases admitted

end Access

end Trigger

theorem Job.Retired.caller {j : Job} {copy : BuildId} {c : Board.Call} {a : Board.Answer}
    (h : j.Retired copy c a) : c = .reschedule j.buildId ∨
      ∃ uuid, c = .releaseAbandoned uuid ∧ j.agent = some uuid := by
  cases h with
  | asked => exact .inl rfl
  | abandoned own => exact .inr ⟨_, rfl, own⟩

theorem Board.Effect.source_of_unasked {b b' : Board} {now : Timestamp} {c : Call} {a : Answer}
    (e : b.Effect now c a b') (coherent : b.Coherent) (unasked : ∀ request, c ≠ .create request)
    {id : BuildId} {j' : Job} (stored' : b'.get? id = some j') :
    ∃ j, j'.request = j.request ∧ b.get? j.buildId = some j ∧ (j.buildId = id ∨
      id = b.nextId ∧ j.isTerminal = false ∧ (c = .reschedule j.buildId ∨
        ∃ uuid, c = .releaseAbandoned uuid ∧ j.agent = some uuid)) := by
  rcases e.source stored' with ⟨j, stored, becomes⟩ | ⟨r, asked, -⟩ |
    ⟨j, stored, running, retired, -, hid, rfl⟩
  · have keyed := coherent.keyed stored
    exact ⟨j, becomes.request_eq, keyed.symm ▸ stored, .inl keyed⟩
  · exact absurd asked (unasked r)
  · exact ⟨j, rfl, stored, .inr ⟨hid, running, retired.caller⟩⟩

namespace Dispatcher

/-- Which calls retire a job for a copy of it: an operator asks for one, or its agent gave it up. -/
def Call.Retires (c : Call) (j : Job) : Prop :=
  c = .rescheduleJob j.buildId ∨ ∃ info, c = .getWork info ∧ j.agent = some info.uuid

/-- A call that sets no run off makes no job but a copy. -/
theorem Tends.source {d d' : Dispatcher} {now : Timestamp} {c : Call} (h : d.Tends now c d')
    (coherent : d.board.Coherent) {id : BuildId} {j' : Job} (stored' : d'.board.get? id = some j') :
    ∃ j, j'.request = j.request ∧ d.board.get? j.buildId = some j ∧
      (j.buildId = id ∨ id = d.board.nextId ∧ j.isTerminal = false ∧ c.Retires j) := by
  have first (k : Board.Call) := coherent.perform_effect now k
  have same (stored : d.board.get? id = some j') : ∃ j, j'.request = j.request ∧
      d.board.get? j.buildId = some j ∧
      (j.buildId = id ∨ id = d.board.nextId ∧ j.isTerminal = false ∧ c.Retires j) := by
    have keyed := coherent.keyed stored
    exact ⟨j', rfl, keyed.symm ▸ stored, .inl keyed⟩
  cases h with
  | still unchanged =>
    have board : d'.board = d.board := congrArg Scheduler.board unchanged
    exact same (board ▸ stored')
  | called after =>
    have board : d'.board = d.board.performAll now c.onBoard := congrArg Scheduler.board after
    rw [board] at stored'
    cases c with
    | getWork info =>
      -- Only the first of the two calls on the board can make a copy.
      have released := first (.releaseAbandoned info.uuid)
      have assigned := (released.coherent coherent).perform_effect now (.assignNext info)
      obtain ⟨k, hk, storedk, rfl | ⟨-, -, hc | ⟨_, hc, -⟩⟩⟩ :=
        assigned.source_of_unasked (released.coherent coherent) (by simp) stored'
      · obtain ⟨j, hj, stored, kept | ⟨hid, running, retired⟩⟩ :=
          released.source_of_unasked coherent (by simp) storedk
        · exact ⟨j, hk.trans hj, stored, .inl kept⟩
        · refine ⟨j, hk.trans hj, stored, .inr ⟨hid, running, .inr ⟨info, rfl, ?_⟩⟩⟩
          rcases retired with hc | ⟨_, hc, own⟩
          · cases hc
          · cases hc
            exact own
      · cases hc
      · cases hc
    | rescheduleJob i =>
      obtain ⟨j, hj, stored, kept | ⟨hid, running, retired⟩⟩ :=
        (first (.reschedule i)).source_of_unasked coherent (by simp) stored'
      · exact ⟨j, hj, stored, .inl kept⟩
      · refine ⟨j, hj, stored, .inr ⟨hid, running, .inl ?_⟩⟩
        rcases retired with hc | ⟨_, hc, -⟩
        · cases hc
          rfl
        · cases hc
    | report info job r =>
      obtain ⟨j, hj, stored, kept | ⟨-, -, hc | ⟨_, hc, -⟩⟩⟩ :=
        (first (.report info.uuid job.buildId r)).source_of_unasked coherent (by simp) stored'
      · exact ⟨j, hj, stored, .inl kept⟩
      · cases hc
      · cases hc
    | cancelJob i =>
      obtain ⟨j, hj, stored, kept | ⟨-, -, hc | ⟨_, hc, -⟩⟩⟩ :=
        (first (.cancel i)).source_of_unasked coherent (by simp) stored'
      · exact ⟨j, hj, stored, .inl kept⟩
      · cases hc
      · cases hc
    | _ => exact same stored'

/-- How a job comes to stand on the board by a call, if it did not stand there before. -/
inductive Comes (d : Dispatcher) (x : Step Call) (id : BuildId) (r : JobRequest) : Prop where
  | kept {j : Job} (stored : d.board.get? id = some j) (same : r = j.request)
  | made {t : Trigger} {p : Pipeline} {stage : Stage} {c : BuildCause} {b' : Board}
    {template : JobTemplate} (called : x.call = .trigger t)
    (launches : d.scheduler.Launches t x.now p stage c b')
    (scheduled : (d.trigger t x.now).1 = .scheduled c.pipeline c.label c.jobs)
    (listed : id ∈ c.jobs) (templated : template ∈ stage.jobs)
    (same : r = template.request c stage.name)
  | copied {j : Job} (stored : d.board.get? j.buildId = some j) (running : j.isTerminal = false)
    (retires : x.call.Retires j) (next : id = d.board.nextId) (same : r = j.request)

theorem comes {d : Dispatcher} {config : Config} (idle : d.scheduler.Idle config)
    (coherent : d.board.Coherent) (x : Step Call) {id : BuildId} {j : Job}
    (stored' : (d.perform x.now x.call).2.board.get? id = some j) : d.Comes x id j.request := by
  obtain ⟨call, now⟩ := x
  rcases launches_or_tends idle now call with ⟨t, p, stage, c, b', rfl, launches, hp⟩ | ⟨-, tends⟩
  · have launched := launches.launched
    have answer : (d.trigger t now).1 = .scheduled c.pipeline c.label c.jobs :=
      Reply.scheduled.inj (congrArg Prod.fst hp)
    rw [hp, board_setBoard] at stored'
    by_cases made : id ∈ c.jobs
    · obtain ⟨template, templated, here⟩ := launched.listed id made
      rw [stored'] at here
      cases here
      exact .made rfl launches answer made templated rfl
    · rw [launched.kept id made] at stored'
      exact .kept stored' rfl
  · obtain ⟨k, same, stored, kept | ⟨next, running, retires⟩⟩ := tends.source coherent stored'
    · exact .kept (kept ▸ stored) same
    · exact .copied stored running retires next same

/--
How a job comes about in a session: a trigger that is granted makes it of a template of the first
stage, or a call that retires a job makes it as the copy.
-/
inductive Started (config : Config) (payload : PayloadStore) :
    List (Step Call) → BuildId → JobRequest → Prop
  | triggered {steps : List (Step Call)} {t : Trigger} {now : Timestamp} {p : Pipeline}
    {stage : Stage} {template : JobTemplate} {c : BuildCause} {id : BuildId}
    (listed : p ∈ config.pipelines) (granted : t.Granted config p)
    (first : p.firstStage? = some stage) (templated : template ∈ stage.jobs)
    (cause : c = { t.cause p ((session config payload steps).state.scheduler.latest? t.pipeline)
      now with jobs := c.jobs })
    (scheduled : ((session config payload steps).state.trigger t now).1 =
      .scheduled p.name c.label c.jobs) (made : id ∈ c.jobs) :
    Started config payload (steps ++ [⟨.trigger t, now⟩]) id (template.request c stage.name)
  | copied {steps : List (Step Call)} {x : Step Call} {j : Job}
    (original : Started config payload steps j.buildId j.request)
    (stored : (session config payload steps).state.board.get? j.buildId = some j)
    (running : j.isTerminal = false) (retires : x.call.Retires j) :
    Started config payload (steps ++ [x]) (session config payload steps).state.board.nextId
      j.request
  | before {steps : List (Step Call)} {id : BuildId} {r : JobRequest} (x : Step Call)
    (started : Started config payload steps id r) : Started config payload (steps ++ [x]) id r

theorem started_of_stored {config : Config} (usable : config.Usable)
    (secured : config.access.enabled = true) (payload : PayloadStore) (steps : List (Step Call))
    {id : BuildId} {j : Job}
    (stored : (session config payload steps).state.board.get? id = some j) :
    Started config payload steps id j.request := by
  induction steps using List.reverseRecOn generalizing id j with
  | nil => cases stored
  | append_singleton steps x ih =>
    have tended := (tended_session config payload steps).board
    have idle := idle_session config payload steps
    rw [session_concat] at stored
    rcases comes idle tended.coherent x stored with ⟨stored', same⟩ |
      @⟨t, p, stage, c, _, _, called, launches, answer, made, templated, same⟩ |
      ⟨stored', running, retires, rfl, same⟩
    · rw [same]
      exact (ih stored').before _
    · obtain ⟨_, now⟩ := x
      cases called
      have found : config.pipeline? t.pipeline = some p := idle.configured ▸ launches.found
      obtain ⟨listed, named⟩ := Config.of_pipeline? found
      have admitted : t.refusal? p (.ofConfig config) = none :=
        idle.permitted ▸ launches.admitted
      have granted := Trigger.granted_of_admitted usable secured listed named admitted
      have pipeline : c.pipeline = p.name := by rw [launches.cause]; rfl
      rw [pipeline] at answer
      rw [same]
      exact .triggered listed granted launches.first templated launches.cause answer made
    · rw [same]
      exact .copied (ih stored') stored' running retires

/--
Where access is checked, every job was made when a material changed, or by a trigger of an admin or
of an operator of the pipeline that is run, or is a copy of such a job. Any other user is refused
before anything is done, whatever the options.
-/
theorem only_authorised_start_work {text : String} {config : Config}
    (parsed : Config.parse text = .ok config) (secured : config.access.enabled = true)
    (payload : PayloadStore) (steps : List (Step Call)) :
    let d := (session config payload steps).state
    (∀ id j, d.board.get? id = some j → Started config payload steps id j.request) ∧
    ∀ pipeline p user, config.pipeline? pipeline = some p → user ∉ config.access.admins →
      user ∉ p.operators → ∃ stage, p.firstStage? = some stage ∧
        ∀ options now, d.trigger (.manual pipeline user options) now =
          (.unauthorized (Permissions.refusal user pipeline stage.name), d) := by
  intro d
  have usable := Config.usable_of_parse parsed
  refine ⟨fun id j stored => started_of_stored usable secured payload steps stored, ?_⟩
  intro pipeline p user found stranger outsider
  have idle : d.scheduler.Idle config := idle_session config payload steps
  obtain ⟨listed, rfl⟩ := Config.of_pipeline? found
  obtain ⟨stage, first⟩ := (usable.usable p listed).exists_firstStage
  refine ⟨stage, first, fun options now => ?_⟩
  have refused := Trigger.refusal?_manual usable secured listed first user options
  rw [if_neg (by simp [stranger, outsider])] at refused
  rcases trigger_cases idle (.manual p.name user options) now with ⟨unknown, -⟩ |
    ⟨q, outcome, found', decided, ht⟩ | ⟨q, _, c, b', launches, -⟩
  · change config.pipeline? p.name = none at unknown
    rw [found] at unknown
    cases unknown
  · change config.pipeline? p.name = some q at found'
    rw [found] at found'
    cases found'
    unfold Trigger.decide at decided
    rw [refused] at decided
    cases decided
    exact ht
  · have found' : config.pipeline? p.name = some q := idle.configured ▸ launches.found
    rw [found] at found'
    cases found'
    have admitted := launches.admitted
    rw [idle.permitted, refused] at admitted
    cases admitted

def guardedText : String :=
  "[security]\nenabled = true\n\n[[pipeline]]\nname = \"site\"\noperators = [\"alice\"]\n" ++
  "[[pipeline.material]]\nname = \"repo\"\n[[pipeline.stage]]\nname = \"build\"\n" ++
  "[[pipeline.stage.job]]\nname = \"compile\"\n"

def guarded : Config :=
  ⟨false, ⟨true, []⟩,
    [⟨"site", ["alice"], [⟨"repo", ""⟩], ∅, [⟨"build", [⟨"compile", [], []⟩]⟩]⟩]⟩

theorem parse_guardedText : Config.parse guardedText = .ok guarded := by decide +kernel

theorem only_authorised_start_work_guarded :
    let steps : List (Step Call) := [⟨.trigger (.manual "site" "alice" .none), 5⟩]
    let d := (session guarded (.new none none) steps).state
    (∃ j, d.board.get? 1 = some j ∧ Started guarded (.new none none) steps 1 j.request) ∧
      ∃ stage, ∀ options now, d.trigger (.manual "site" "mallory" options) now =
        (.unauthorized (Permissions.refusal "mallory" "site" stage), d) := by
  intro steps d
  obtain ⟨started, refused⟩ :=
    only_authorised_start_work parse_guardedText rfl (.new none none) steps
  constructor
  · exact ⟨_, rfl, started 1 _ rfl⟩
  · obtain ⟨stage, -, answer⟩ := refused "site" _ "mallory" rfl (by decide) (by decide)
    exact ⟨stage.name, answer⟩

end Dispatcher

end BuildDispatch
