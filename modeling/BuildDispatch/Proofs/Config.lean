import BuildDispatch.Config.Text
import BuildDispatch.Permission
import BuildDispatch.Proofs.Table

/-!
Usable configurations. A configuration has no fault if and only if it is usable
(`Config.fault?_eq_none_iff`), and the permissions of a usable one are those of its pipelines
(`Permissions.allows_ofConfig`).
-/
namespace BuildDispatch

structure Stage.Usable (s : Stage) : Prop where
  jobs : s.jobs ≠ []
  names : (s.jobs.map (·.name)).Nodup

structure Pipeline.Usable (p : Pipeline) : Prop where
  stages : p.stages ≠ []
  usable : ∀ s ∈ p.stages, s.Usable

structure Config.Usable (c : Config) : Prop where
  names : (c.pipelines.map (·.name)).Nodup
  usable : ∀ p ∈ c.pipelines, p.Usable

namespace Config

theorem firstRepeated?_eq_none_iff {names seen : List String} :
    firstRepeated? seen names = none ↔ names.Nodup ∧ ∀ name ∈ names, name ∉ seen := by
  induction names generalizing seen with
  | nil => simp [firstRepeated?]
  | cons name rest ih =>
    unfold firstRepeated?
    by_cases hs : name ∈ seen
    · simp [hs]
    · rw [if_neg hs, ih, List.nodup_cons]
      simp only [List.mem_cons, not_or, forall_eq_or_imp]
      constructor
      · rintro ⟨distinct, apart⟩
        exact ⟨⟨fun hm => (apart name hm).1 rfl, distinct⟩, hs, fun n hn => (apart n hn).2⟩
      · rintro ⟨⟨absent, distinct⟩, -, apart⟩
        exact ⟨distinct, fun n hn => ⟨fun he => absent (he ▸ hn), apart n hn⟩⟩

theorem stageFault?_eq_none_iff {pipeline : String} {s : Stage} :
    stageFault? pipeline s = none ↔ s.Usable := by
  unfold stageFault?
  cases hj : s.jobs with
  | nil =>
    have hn : ¬s.Usable := fun h => h.jobs hj
    simp [hn]
  | cons j rest =>
    rw [List.isEmpty_cons, if_neg Bool.false_ne_true, Option.map_eq_none_iff,
      firstRepeated?_eq_none_iff, ← hj]
    constructor
    · rintro ⟨distinct, -⟩
      exact ⟨by simp [hj], distinct⟩
    · exact fun h => ⟨h.names, by simp⟩

theorem pipelineFault?_eq_none_iff {p : Pipeline} : pipelineFault? p = none ↔ p.Usable := by
  unfold pipelineFault?
  cases hs : p.stages with
  | nil =>
    have hn : ¬p.Usable := fun h => h.stages hs
    simp [hn]
  | cons s rest =>
    rw [List.isEmpty_cons, if_neg Bool.false_ne_true, List.findSome?_eq_none_iff, ← hs]
    simp only [stageFault?_eq_none_iff]
    exact ⟨fun h => ⟨by simp [hs], h⟩, fun h => h.usable⟩

theorem faultAfter?_eq_none_iff {pipelines : List Pipeline} {seen : List String} :
    faultAfter? seen pipelines = none ↔
      (pipelines.map (·.name)).Nodup ∧ (∀ p ∈ pipelines, p.name ∉ seen) ∧
        ∀ p ∈ pipelines, p.Usable := by
  induction pipelines generalizing seen with
  | nil => simp [faultAfter?]
  | cons p rest ih =>
    unfold faultAfter?
    by_cases hs : p.name ∈ seen
    · simp [hs]
    · rw [if_neg hs]
      cases hp : pipelineFault? p with
      | some fault =>
        have hn : ¬p.Usable := by
          rw [← pipelineFault?_eq_none_iff, hp]
          simp
        simp [hn]
      | none =>
        have hu : p.Usable := pipelineFault?_eq_none_iff.1 hp
        dsimp only
        rw [ih, List.map_cons, List.nodup_cons]
        simp only [List.mem_cons, List.mem_map, not_or, not_exists, not_and, forall_eq_or_imp]
        constructor
        · rintro ⟨distinct, apart, usable⟩
          exact ⟨⟨fun q hq => (apart q hq).1, distinct⟩, ⟨hs, fun q hq => (apart q hq).2⟩, hu, usable⟩
        · rintro ⟨⟨absent, distinct⟩, ⟨-, apart⟩, -, usable⟩
          exact ⟨distinct, fun q hq => ⟨absent q hq, apart q hq⟩, usable⟩

theorem fault?_eq_none_iff {c : Config} : c.fault? = none ↔ c.Usable := by
  unfold fault?
  rw [faultAfter?_eq_none_iff]
  exact ⟨fun h => ⟨h.1, h.2.2⟩, fun h => ⟨h.names, by simp, h.usable⟩⟩

theorem usable_of_parse {text : String} {c : Config} (parsed : parse text = .ok c) :
    c.Usable := by
  unfold parse at parsed
  split at parsed
  · cases parsed
  · split at parsed
    · cases parsed
    · split at parsed
      case h_1 => cases parsed
      case h_2 sound =>
        cases parsed
        exact fault?_eq_none_iff.1 sound

theorem of_pipeline? {c : Config} {name : String} {p : Pipeline} (h : c.pipeline? name = some p) :
    p ∈ c.pipelines ∧ p.name = name :=
  ⟨List.mem_of_find?_eq_some h, by simpa using List.find?_some h⟩

end Config

namespace Permissions

/-- The operators that are looked up for a pipeline are those of its one entry. -/
theorem get?_operators {c : Config} (h : c.Usable) {p : Pipeline} (hp : p ∈ c.pipelines) :
    (ofConfig c).operators.get? p.name = some (.ofKeys p.operators) := by
  have distinct : ((c.pipelines.map fun p => (p.name, Table.ofKeys p.operators)).map
      Prod.fst).Nodup := by
    rw [List.map_map]
    exact h.names
  exact Table.get?_insertAll_of_mem distinct (List.mem_map.2 ⟨p, hp, rfl⟩) Table.empty

theorem allows_ofConfig {c : Config} (h : c.Usable) {p : Pipeline} (hp : p ∈ c.pipelines)
    (user : String) : (ofConfig c).allows user p.name = true ↔
      c.access.enabled = false ∨ user ∈ c.access.admins ∨ user ∈ p.operators := by
  unfold allows
  rw [get?_operators h hp]
  simp [ofConfig, Table.contains_ofKeys, or_assoc]

end Permissions

end BuildDispatch
