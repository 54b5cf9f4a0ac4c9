import BuildDispatch.Config
import BuildDispatch.Proofs.Path.Resolve
import BuildDispatch.Worker.Directory

/-!
Where jobs run. A job stays inside the directory of all pipelines just if the name of its pipeline
leads to a directory of its own there (`JobRef.confined_iff`), and nothing keeps other names out
(`JobRef.runs_outside_pipelines`).
-/
namespace BuildDispatch

namespace Path.Route

/-- Down from a directory at once, or back out of it, into it again and then down. -/
inductive EndsBelow (directory : String) : Route → Prop where
  | down {name : String} {rest : List String} : EndsBelow directory ⟨0, name :: rest⟩
  | around {name : String} {rest : List String} : EndsBelow directory ⟨1, directory :: name :: rest⟩

variable {r : Route} {directory : String}

theorem EndsBelow.lead (h : r.EndsBelow directory) (dirs : List String) :
    ∃ name rest, r.lead (dirs ++ [directory]) = dirs ++ directory :: name :: rest := by
  cases h with
  | @down name rest => exact ⟨name, rest, by simp [Route.lead, List.take_of_length_le]⟩
  | @around name rest => exact ⟨name, rest, by simp [Route.lead]⟩

/-- A route that goes back further cannot come to two places. -/
theorem endsBelow_of_lead {a b : String} (apart : a ≠ b) {name name' : String}
    {rest rest' : List String} (inA : r.lead [a, directory] = a :: directory :: name :: rest)
    (inB : r.lead [b, directory] = b :: directory :: name' :: rest') : r.EndsBelow directory := by
  obtain ⟨back, down⟩ := r
  match back with
  | 0 =>
    have names : down = name :: rest := by simpa [Route.lead] using inA
    rw [names]
    exact .down
  | 1 =>
    have names : down = directory :: name :: rest := by simpa [Route.lead] using inA
    rw [names]
    exact .around
  | back + 2 =>
    have fromA : down = a :: directory :: name :: rest := by simpa [Route.lead] using inA
    have fromB : down = b :: directory :: name' :: rest' := by simpa [Route.lead] using inB
    rw [fromA] at fromB
    exact absurd (List.cons.inj fromB).1 apart

end Path.Route

/--
A path leads into the directory of all pipelines and not just to it, for an agent that was started
in `here`.
-/
def InPipelines (here root path : String) : Prop :=
  Path.isBelow (Path.join here path) (Path.join here (Path.join root "pipelines")) = true

theorem resolve_pipelines (here root : String) :
    Path.resolve (Path.join here (Path.join root "pipelines")) =
      Path.resolve (Path.join here root) ++ ["pipelines"] := by
  have name : Path.parts "pipelines" = ["pipelines"] := by
    rw [Path.parts_eq]
    decide
  rw [Path.resolve_join_join (by decide), Path.follow_of_names (by rw [name]; decide), name]

theorem inPipelines_iff {here root path : String} : InPipelines here root path ↔
    ∃ name rest, Path.resolve (Path.join here path) =
      Path.resolve (Path.join here root) ++ "pipelines" :: name :: rest := by
  unfold InPipelines
  rw [Path.isBelow_iff, resolve_pipelines]
  constructor
  · rintro ⟨more, some, whole⟩
    obtain ⟨name, rest, rfl⟩ := List.exists_cons_of_ne_nil some
    rw [List.append_assoc] at whole
    exact ⟨name, rest, whole⟩
  · rintro ⟨name, rest, whole⟩
    refine ⟨name :: rest, List.cons_ne_nil _ _, ?_⟩
    rw [List.append_assoc]
    exact whole

theorem InPipelines.length_lt {here root path : String} (h : InPipelines here root path) :
    (Path.resolve (Path.join here root)).length + 1 <
      (Path.resolve (Path.join here path)).length := by
  obtain ⟨name, rest, whole⟩ := inPipelines_iff.1 h
  rw [whole, List.length_append, List.length_cons, List.length_cons]
  omega

/-- The task starts in the directory of its job, or further down. -/
def Task.StaysBelow (task : Task) : Prop :=
  ∀ relative, task.workingDir = some relative →
    Path.isAbsolute relative = false ∧ ".." ∉ Path.parts relative

/-- A task starts inside if its job's directory lies there. -/
theorem Task.StaysBelow.inPipelines {task : Task} (h : task.StaysBelow) {job : JobRef}
    {here root : String} (inside : InPipelines here root (job.directory root)) :
    InPipelines here root (task.directory root job) := by
  unfold Task.directory
  cases place : task.workingDir with
  | none => exact inside
  | some relative =>
    obtain ⟨unrooted, names⟩ := h relative place
    obtain ⟨name, rest, whole⟩ := inPipelines_iff.1 inside
    refine inPipelines_iff.2 ⟨name, rest ++ Path.parts relative, ?_⟩
    dsimp only
    rw [Path.resolve_join_join unrooted, Path.follow_of_names names, whole, List.append_assoc]
    rfl

namespace JobRef

/-- The name of the pipeline leads to a directory of its own among those of all pipelines. -/
def Confined (job : JobRef) : Prop :=
  Path.isAbsolute job.pipeline = false ∧ (Path.route job.pipeline).EndsBelow "pipelines"

variable {job : JobRef}

/-- A relative name leads on from the directory of all pipelines. -/
theorem resolve_directory (relative : Path.isAbsolute job.pipeline = false) (here root : String) :
    Path.resolve (Path.join here (job.directory root)) =
      (Path.route job.pipeline).lead (Path.resolve (Path.join here root) ++ ["pipelines"]) := by
  unfold directory
  rw [Path.resolve_join_join relative, resolve_pipelines, Path.follow_eq_lead]

theorem directory_of_isAbsolute (rooted : Path.isAbsolute job.pipeline = true) (root : String) :
    job.directory root = job.pipeline := by
  simp [directory, Path.join, rooted]

theorem Confined.inPipelines (h : job.Confined) (here root : String) :
    InPipelines here root (job.directory root) := by
  rw [inPipelines_iff, resolve_directory h.1]
  exact h.2.lead _

/-- No other name is safe: it is enough to look at two roots. -/
theorem confined_of_inPipelines (inside : ∀ root, InPipelines "" root (job.directory root)) :
    job.Confined := by
  have first : Path.resolve "/a" = ["a"] := by
    rw [Path.resolve_eq_follow, Path.follow, Path.parts_eq]
    decide
  have second : Path.resolve "/b" = ["b"] := by
    rw [Path.resolve_eq_follow, Path.follow, Path.parts_eq]
    decide
  obtain ⟨name, rest, inA⟩ := inPipelines_iff.1 (inside "/a")
  obtain ⟨name', rest', inB⟩ := inPipelines_iff.1 (inside "/b")
  change _ = Path.resolve "/a" ++ _ at inA
  change _ = Path.resolve "/b" ++ _ at inB
  rw [first] at inA
  rw [second] at inB
  cases rooted : Path.isAbsolute job.pipeline with
  | true =>
    -- An absolute path leads to one place, which does not lie below both.
    rw [directory_of_isAbsolute rooted] at inA inB
    rw [inA] at inB
    exact absurd (List.cons.inj inB).1 (by decide)
  | false =>
    rw [resolve_directory rooted] at inA inB
    change (Path.route job.pipeline).lead (Path.resolve "/a" ++ _) = _ at inA
    change (Path.route job.pipeline).lead (Path.resolve "/b" ++ _) = _ at inB
    rw [first] at inA
    rw [second] at inB
    exact ⟨rooted, Path.Route.endsBelow_of_lead (by decide) inA inB⟩

/--
Wherever an agent has its root, and wherever it was started: the directory of a job, and the one in
which a task of it starts that stays below, lie strictly inside the directory of all pipelines.
That holds just if the name of the pipeline is confined there.
-/
theorem confined_iff (job : JobRef) : job.Confined ↔ ∀ here root,
    InPipelines here root (job.directory root) ∧
      ∀ task : Task, task.StaysBelow → InPipelines here root (task.directory root job) := by
  constructor
  · intro confined here root
    have inside := confined.inPipelines here root
    exact ⟨inside, fun task stays => stays.inPipelines inside⟩
  · intro inside
    exact confined_of_inPipelines fun root => (inside "" root).1

/-- A name that leads out of the directory and into it again; the task starts further down. -/
theorem confined_iff_around :
    let job : JobRef := ⟨"../pipelines/site/./docs/../web", "1", "build", "compile", 1⟩
    let task : Task := ⟨"make", [], some "src//deep"⟩
    job.Confined ∧ task.StaysBelow ∧
      InPipelines "/home" "agent/.." (task.directory "agent/.." job) := by
  intro job task
  have leads : Path.route job.pipeline = ⟨1, ["pipelines", "site", "web"]⟩ := by
    rw [Path.route, Path.parts_eq]
    decide
  have confined : job.Confined := by
    refine ⟨by decide, ?_⟩
    rw [leads]
    exact .around
  have stays : task.StaysBelow := by
    rintro relative ⟨⟩
    rw [Path.parts_eq]
    decide
  exact ⟨confined, stays, (job.confined_iff.1 confined "/home" "agent/..").2 task stays⟩

/--
No fault is found in a configuration with such names. The first one leads anywhere, the second one
back to the root of the agent, and the third one to the directory that all pipelines share.
-/
theorem runs_outside_pipelines :
    let pipeline (name : String) : Pipeline :=
      ⟨name, [], [], ∅, [⟨"build", [⟨"compile", [], []⟩]⟩]⟩
    let job (name : String) : JobRef := ⟨name, "1", "build", "compile", 1⟩
    (Config.mk false .unrestricted [pipeline "/etc", pipeline "..", pipeline ""]).fault? = none ∧
      ¬InPipelines "/" "/w" ((job "/etc").directory "/w") ∧
      ¬InPipelines "/" "/w" ((job "..").directory "/w") ∧
      ¬InPipelines "/" "/w" ((job "").directory "/w") := by
  intro pipeline job
  have depth : (Path.resolve (Path.join "/" "/w")).length = 1 := by
    rw [Path.resolve_eq_follow, Path.follow, Path.parts_eq]
    decide
  have outside (name : String)
      (short : (Path.resolve (Path.join "/" ((job name).directory "/w"))).length ≤ 2) :
      ¬InPipelines "/" "/w" ((job name).directory "/w") := by
    intro inside
    have deeper := inside.length_lt
    omega
  refine ⟨by decide, outside _ ?_, outside _ ?_, outside _ ?_⟩
  all_goals
    rw [Path.resolve_eq_follow, Path.follow, Path.parts_eq]
    decide

end JobRef

end BuildDispatch
