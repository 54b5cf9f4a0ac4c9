import BuildDispatch.Proofs.Table
import BuildDispatch.Scheduler
import BuildDispatch.Worker.Directory

/-!
The variables of a run, in layers: the secure ones of its trigger lie above the plain ones, these
above the defaults of the pipeline, and all of them above what is inherited (`Trigger.layered`).
-/
namespace BuildDispatch

namespace Variable

/-- The variable that decides on a name: of several, the last one. -/
def deciding? (name : String) (given : List Variable) : Option Variable :=
  (given.filter (·.name = name)).getLast?

variable (name : String)

/-- What a task sees under a name is the value that decides, or else is inherited. -/
theorem get?_environment (inherited : Table String String) (given : List Variable) :
    (Task.environment inherited given).get? name =
      ((deciding? name given).map Variable.value).or (inherited.get? name) := by
  have named : (given.map fun v => (v.name, v.value)).filter (·.1 = name) =
      (given.filter (·.name = name)).map fun v => (v.name, v.value) := List.filter_map
  unfold Task.environment
  rw [Table.get?_insertAll, named, List.getLast?_map, Option.map_map]
  rfl

theorem deciding?_append (given more : List Variable) :
    deciding? name (given ++ more) = (deciding? name more).or (deciding? name given) := by
  unfold deciding?
  rw [List.filter_append, List.getLast?_append]

/-- Of variables that are made of sorted entries, each decides on its name. -/
theorem deciding?_entries {entries : List (String × String)} (sorted : Entries.Sorted entries)
    (make : String → String → Variable) (named : ∀ name value, (make name value).name = name) :
    deciding? name (entries.map fun e => make e.1 e.2) =
      (Entries.lookup name entries).map (make name) := by
  induction entries with
  | nil => rfl
  | cons e rest ih =>
    obtain ⟨below, sorted⟩ := List.pairwise_cons.1 sorted
    have others := ih sorted
    unfold deciding? at others ⊢
    rw [List.map_cons, List.filter_cons, Entries.lookup]
    by_cases here : name = e.1
    · subst here
      have absent : Entries.lookup e.1 rest = none :=
        Entries.lookup_eq_none.2 fun e' he' => (Entries.ne_of_compare_lt (below e' he')).symm
      rw [absent] at others
      rw [if_pos (decide_eq_true (named ..)), if_pos rfl, List.getLast?_cons, others]
      rfl
    · rw [if_neg (by simpa [named] using Ne.symm here), if_neg here, others]

end Variable

open Variable (deciding? deciding?_append deciding?_entries get?_environment)

namespace TriggerOptions

variable (o : TriggerOptions) (name : String)

/-- Whether one of the options has a name, be it a plain or a secure one. -/
def overrides : Bool := o.plain.contains name || o.secure.contains name

/-- The secure variable of a name decides, and if there is none, the plain one. -/
theorem deciding?_environment : deciding? name o.environment =
    ((o.secure.get? name).map (.secret name)).or ((o.plain.get? name).map (.plain name)) := by
  have plain := deciding?_entries name o.plain.sorted .plain fun _ _ => rfl
  have secure := deciding?_entries name o.secure.sorted .secret fun _ _ => rfl
  unfold environment
  rw [deciding?_append, plain, secure]
  rfl

/-- Just the names of the options are those of their variables. -/
theorem any_environment : (o.environment.any fun v => v.name = name) = o.overrides name := by
  have bound (t : Table String String) : (t.entries.any fun e => e.1 = name) = t.contains name := by
    rw [Bool.eq_iff_iff, ← Table.mem_keys]
    simp [Table.keys]
  unfold environment overrides
  rw [List.any_append, List.any_map, List.any_map, ← bound, ← bound]
  rfl

end TriggerOptions

/-- How the options of a trigger and the defaults of a pipeline make the variables of a job. -/
structure Layered (o : TriggerOptions) (defaults : Table String String) (given : List Variable) :
    Prop where
  seen : ∀ (inherited : Table String String) name, (Task.environment inherited given).get? name =
    (o.secure.get? name).or ((o.plain.get? name).or
      ((defaults.get? name).or (inherited.get? name)))
  decided : ∀ (inherited : Table String String) name,
    (Task.environment inherited given).get? name =
      ((deciding? name given).map Variable.value).or (inherited.get? name)
  /-- What decides is marked as secure just where it is one of the secure options. -/
  marked : ∀ name v, deciding? name given = some v →
    (v.secure = true ↔ o.secure.get? name = some v.value)
  /-- Nothing but options goes by the name of an option. -/
  overridden : ∀ name, o.overrides name = true →
    given.filter (·.name = name) = o.environment.filter (·.name = name)

namespace Trigger

variable (defaults : Table String String) (o : TriggerOptions)

/-- The options that a trigger carries. -/
def options : Trigger → TriggerOptions
  | manual _ _ options => options
  | material .. => .none

theorem overrides_eq (t : Trigger) : t.overrides = t.options.environment := by
  cases t <;> rfl

/-- The defaults of a pipeline under whose names there is no option. -/
def kept : List (String × String) := defaults.entries.filter fun e => !o.overrides e.1

theorem mergeVariables_environment : mergeVariables defaults o.environment =
    (kept defaults o).map (fun e => .plain e.1 e.2) ++ o.environment := by
  unfold mergeVariables kept
  simp only [o.any_environment]

theorem lookup_kept (name : String) : Entries.lookup name (kept defaults o) =
    if o.overrides name then none else defaults.get? name := by
  unfold kept
  rw [Entries.lookup_filter defaults.sorted]
  change (defaults.get? name).filter _ = _
  cases overridden : o.overrides name with
  | false => cases defaults.get? name <;> simp [Option.filter, overridden]
  | true => cases defaults.get? name <;> simp [Option.filter, overridden]

/-- What is made of an option decides, if there is one of the name, and else the default. -/
theorem deciding?_mergeVariables (name : String) :
    deciding? name (mergeVariables defaults o.environment) =
      ((o.secure.get? name).map (.secret name)).or (((o.plain.get? name).map (.plain name)).or
        ((defaults.get? name).map (.plain name))) := by
  have sorted : Entries.Sorted (kept defaults o) := defaults.sorted.filter _
  have rest := deciding?_entries name sorted .plain fun _ _ => rfl
  rw [mergeVariables_environment, deciding?_append, o.deciding?_environment, rest, lookup_kept]
  unfold TriggerOptions.overrides Table.contains
  cases o.secure.get? name <;> cases o.plain.get? name <;> simp

theorem layered_mergeVariables : Layered o defaults (mergeVariables defaults o.environment) where
  decided inherited name := get?_environment name inherited _
  seen inherited name := by
    rw [get?_environment, deciding?_mergeVariables]
    cases o.secure.get? name <;> cases o.plain.get? name <;> cases defaults.get? name <;> rfl
  marked name v decides := by
    rw [deciding?_mergeVariables] at decides
    cases secure : o.secure.get? name with
    | some value =>
      rw [secure] at decides
      cases decides
      exact iff_of_true rfl rfl
    | none =>
      rw [secure, Option.map_none, Option.none_or] at decides
      have plain : v.secure = false := by
        rcases Option.or_eq_some_iff.1 decides with option | ⟨-, default⟩
        · obtain ⟨value, -, rfl⟩ := Option.map_eq_some_iff.1 option
          rfl
        · obtain ⟨value, -, rfl⟩ := Option.map_eq_some_iff.1 default
          rfl
      exact iff_of_false (by simp [plain]) nofun
  overridden name overrides := by
    have none : ((kept defaults o).map fun e => Variable.plain e.1 e.2).filter (·.name = name) =
        [] := by
      refine List.filter_eq_nil_iff.2 fun v made same => ?_
      obtain ⟨e, listed, rfl⟩ := List.mem_map.1 made
      have free := (List.mem_filter.1 listed).2
      have named : e.1 = name := of_decide_eq_true same
      rw [named, overrides] at free
      cases free
    rw [mergeVariables_environment, List.filter_append, none, List.nil_append]

theorem layered (t : Trigger) (p : Pipeline) (latest : Option BuildCause) (now : Timestamp) :
    Layered t.options p.defaults (t.cause p latest now).environment := by
  change Layered _ _ (mergeVariables p.defaults t.overrides)
  rw [overrides_eq]
  exact layered_mergeVariables p.defaults t.options

end Trigger

end BuildDispatch
