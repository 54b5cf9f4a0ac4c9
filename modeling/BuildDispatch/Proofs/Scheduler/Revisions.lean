import BuildDispatch.Proofs.Scheduler.Run

/-!
The revisions of materials as a map. The lists of revisions that causes keep are in the order of
materials and name each once (`Revision.Lists`), so that to compare lengths and look up one list in
the other decides whether the maps are equal (`Trigger.sameRevisions_iff`).
-/
namespace BuildDispatch

abbrev RevisionMap := String → Option String

namespace Revision

/-- The map that is built of revisions, of which a later one of the same material wins. -/
def noted (revisions : List Revision) : RevisionMap := fun material =>
  ((revisions.filter (·.material = material)).getLast?).map (·.revision)

/-- The revisions are those of a map, in the order of materials and each material once. -/
structure Lists (revisions : List Revision) (map : RevisionMap) : Prop where
  sorted : revisions.Pairwise fun r r' => r.material < r'.material
  mem_iff : ∀ r, r ∈ revisions ↔ map r.material = some r.revision

/-- The revisions of a cause as they are listed by a table. -/
def ofEntries (t : Table String String) : List Revision := t.entries.map fun e => ⟨e.1, e.2⟩

theorem compare_eq_lt_iff {a b : String} : compare a b = .lt ↔ a < b := compareOfLessAndEq_eq_lt

theorem lists_ofEntries (t : Table String String) : Lists (ofEntries t) t.get? where
  sorted := List.pairwise_map.2 (t.sorted.imp compare_eq_lt_iff.1)
  mem_iff r := by
    unfold ofEntries
    rw [List.mem_map]
    constructor
    · rintro ⟨e, he, rfl⟩
      exact Entries.lookup_of_mem t.sorted he
    · intro bound
      exact ⟨(r.material, r.revision), Entries.mem_of_lookup bound, rfl⟩

/-- What lists a map is the list of the entries of a table. -/
theorem Lists.exists_table {revisions : List Revision} {map : RevisionMap}
    (h : Lists revisions map) : ∃ t : Table String String,
      t.entries = revisions.map (fun r => (r.material, r.revision)) ∧ t.get? = map := by
  have sorted : Entries.Sorted (revisions.map fun r => (r.material, r.revision)) :=
    List.pairwise_map.2 (h.sorted.imp compare_eq_lt_iff.2)
  refine ⟨⟨_, sorted⟩, rfl, funext fun material => Option.ext fun revision => ?_⟩
  have listed : (material, revision) ∈ revisions.map (fun r => (r.material, r.revision)) ↔
      (⟨material, revision⟩ : Revision) ∈ revisions := by
    rw [List.mem_map]
    constructor
    · rintro ⟨r, hr, same⟩
      cases same
      exact hr
    · exact fun hr => ⟨_, hr, rfl⟩
  rw [h.mem_iff] at listed
  rw [← listed]
  exact ⟨Entries.mem_of_lookup, Entries.lookup_of_mem sorted⟩

theorem get?_ofList (revisions : List Revision) :
    (Table.ofList (revisions.map fun r => (r.material, r.revision))).get? = noted revisions := by
  funext material
  have bound := (∅ : Table String String).get?_insertAll
    (revisions.map fun r => (r.material, r.revision)) material
  refine bound.trans ?_
  rw [Table.get?_empty, Option.or_none, List.filter_map, List.getLast?_map, Option.map_map]
  rfl

/-- A material has a revision in the map if it is mentioned. -/
theorem isSome_noted {revisions : List Revision} {material : String} :
    (noted revisions material).isSome = true ↔ material ∈ revisions.map (·.material) := by
  unfold noted
  rw [Option.isSome_map, List.getLast?_isSome, ne_eq, List.filter_eq_nil_iff]
  simp

end Revision

namespace Trigger

open Revision (noted Lists)

/-- What a trigger that sets a run off makes of the revisions of its pipeline. -/
def revise (t : Trigger) (former : Option RevisionMap) : RevisionMap :=
  match t with
  | manual _ _ options => fun material =>
    (options.revisions.get? material).or (former.bind fun map => map material)
  | material _ revisions => noted revisions

/-- What is kept of the latest run of a pipeline is the map of the pipeline. -/
abbrev Keeps (latest : Option BuildCause) (map : Option RevisionMap) : Prop :=
  Option.Rel (fun c map => Lists c.revisions map) latest map

variable {latest : Option BuildCause} {former : Option RevisionMap} (h : Keeps latest former)
include h

theorem get?_revisionsOf : (Table.ofList (revisionsOf latest)).get? =
    fun material => former.bind fun map => map material := by
  cases h with
  | none => rfl
  | some lists =>
    obtain ⟨t, entries, rfl⟩ := lists.exists_table
    change (Table.ofList (List.map _ _)).get? = t.get?
    rw [← entries, Table.ofList_of_perm (List.Perm.refl _)]

theorem get?_revisions (t : Trigger) : (t.revisions latest).get? = t.revise former := by
  cases t with
  | manual pipeline user options =>
    funext material
    refine (Table.get?_insertAll_entries _ _ material).trans ?_
    rw [get?_revisionsOf h]
    rfl
  | material pipeline revisions => exact Revision.get?_ofList revisions

theorem lists_cause (t : Trigger) (p : Pipeline) (now : Timestamp) :
    Lists (t.cause p latest now).revisions (t.revise former) := by
  rw [← get?_revisions h]
  exact Revision.lists_ofEntries _

omit h in
theorem sameRevisions_iff {c : BuildCause} {map : RevisionMap} (lists : Lists c.revisions map)
    (t : Table String String) : sameRevisions c t = true ↔ map = t.get? := by
  obtain ⟨kept, entries, rfl⟩ := lists.exists_table
  have size : c.revisions.length = kept.size := by
    rw [Table.size, entries, List.length_map]
  have bound : (∀ r ∈ c.revisions, t.get? r.material = some r.revision) ↔
      ∀ e ∈ kept.entries, t.get? e.1 = some e.2 := by
    rw [entries]
    simp
  unfold sameRevisions
  rw [Bool.and_eq_true, decide_eq_true_iff, List.all_eq_true, size]
  simp only [decide_eq_true_iff]
  rw [bound]
  constructor
  · rintro ⟨sizes, within⟩
    rw [Table.eq_of_bound sizes within]
  · intro same
    have equal : kept = t := Table.eq_of_get? fun k => congrFun same k
    rw [equal]
    exact ⟨rfl, fun e he => Entries.lookup_of_mem t.sorted he⟩

/-- A change of materials is none if the map stays the same. -/
theorem isChange_material (pipeline : String) (revisions : List Revision) :
    (material pipeline revisions).isChange latest = true ↔ former ≠ some (noted revisions) := by
  cases h with
  | none => simp [isChange]
  | @some c map lists =>
    change (!sameRevisions c _) = true ↔ _
    rw [Bool.not_eq_true', ← Bool.not_eq_true, sameRevisions_iff lists,
      get?_revisions (.some lists)]
    simp [revise]

end Trigger

section Material

open Revision (noted)

variable {pipeline : String} {p : Pipeline} {stage : Stage} {revisions : List Revision}

/-- A change of materials of which all are known is a run or none at all. -/
theorem Trigger.decide_material (known : ∀ r ∈ revisions, p.hasMaterial r.material = true)
    (first : p.firstStage? = some stage) (permissions : Permissions) (latest : Option BuildCause)
    (now : Timestamp) :
    let t := Trigger.material pipeline revisions
    t.decide p permissions latest now =
      if t.isChange latest then .ok (t.cause p latest now, stage)
      else .error (.noChange pipeline) := by
  intro t
  have none_unknown : t.materials.find? (fun m => !p.hasMaterial m) = none := by
    simpa [t, materials] using known
  have admitted : t.refusal? p permissions = none := rfl
  unfold decide
  rw [admitted, none_unknown, first]
  rfl

/-- Of the revisions that are reported only their map matters. -/
theorem Trigger.decide_congr {others : List Revision} (same : noted others = noted revisions)
    (known : ∀ r ∈ revisions, p.hasMaterial r.material = true)
    (first : p.firstStage? = some stage) (permissions : Permissions) (latest : Option BuildCause)
    (now : Timestamp) : (material pipeline others).decide p permissions latest now =
      (material pipeline revisions).decide p permissions latest now := by
  have table : (material pipeline others).revisions latest =
      (material pipeline revisions).revisions latest := by
    refine Table.eq_of_get? fun m => ?_
    change (Table.ofList (others.map _)).get? m = (Table.ofList (revisions.map _)).get? m
    rw [Revision.get?_ofList, Revision.get?_ofList, same]
  have others_known : ∀ r ∈ others, p.hasMaterial r.material = true := by
    intro r hr
    have noted_too := Revision.isSome_noted.2 (List.mem_map_of_mem (f := (·.material)) hr)
    rw [same] at noted_too
    obtain ⟨r', hr', material⟩ := List.mem_map.1 (Revision.isSome_noted.1 noted_too)
    rw [← material]
    exact known r' hr'
  have change : (material pipeline others).isChange latest =
      (material pipeline revisions).isChange latest := by
    unfold isChange
    rw [table]
    cases latest <;> rfl
  have cause : (material pipeline others).cause p latest now =
      (material pipeline revisions).cause p latest now := by
    unfold Trigger.cause
    rw [table]
    rfl
  rw [decide_material others_known first, decide_material known first, change, cause]

namespace Scheduler

variable (s : Scheduler) (now : Timestamp)

theorem trigger_congr {t u : Trigger} (aim : t.pipeline = u.pipeline)
    (free : s.inFlight.contains u.pipeline = false)
    (found : s.config.pipeline? u.pipeline = some p)
    (decided : t.decide p s.permissions (s.latest? u.pipeline) now =
      u.decide p s.permissions (s.latest? u.pipeline) now) :
    s.trigger t now = s.trigger u now := by
  let entered := { s with inFlight := s.inFlight.insert u.pipeline () }
  have inside : t.decide p entered.permissions (entered.latest? u.pipeline) now =
      u.decide p entered.permissions (entered.latest? u.pipeline) now := decided
  have carried : entered.carryOut p t now = entered.carryOut p u now := by
    unfold carryOut
    rw [aim, inside]
  have leaves (s : Scheduler) : s.leave t = s.leave u := by
    unfold leave
    rw [aim]
  have run := trigger_of_found s now (t := t) (aim ▸ free) (aim ▸ found)
  have run' := trigger_of_found s now free found
  rw [aim] at run
  rw [run, run', carried, leaves]

theorem trigger_fst {t : Trigger} (free : s.inFlight.contains t.pipeline = false)
    (found : s.config.pipeline? t.pipeline = some p) : (s.trigger t now).1 =
      match t.decide p s.permissions (s.latest? t.pipeline) now with
      | .error outcome => outcome
      | .ok (c, stage) =>
        .scheduled c.pipeline c.label (numbersFrom s.board.nextId stage.jobs.length) := by
  rw [trigger_of_found s now free found]
  unfold carryOut
  dsimp only
  change (match t.decide p s.permissions (s.latest? t.pipeline) now with
    | .error outcome => _
    | .ok (c, stage) => _ : ScheduleOutcome × Scheduler).1 = _
  cases t.decide p s.permissions (s.latest? t.pipeline) now with
  | error outcome => rfl
  | ok run =>
    obtain ⟨c, stage⟩ := run
    dsimp only
    rw [createJobs_fst]

theorem trigger_material_fst (free : s.inFlight.contains pipeline = false)
    (found : s.config.pipeline? pipeline = some p)
    (known : ∀ r ∈ revisions, p.hasMaterial r.material = true)
    (first : p.firstStage? = some stage) :
    let t := Trigger.material pipeline revisions
    (s.trigger t now).1 = if t.isChange (s.latest? pipeline) then
      .scheduled p.name (t.cause p (s.latest? pipeline) now).label
        (numbersFrom s.board.nextId stage.jobs.length)
    else .noChange pipeline := by
  intro t
  have decided : t.decide p s.permissions (s.latest? t.pipeline) now =
      if t.isChange (s.latest? t.pipeline) then .ok (t.cause p (s.latest? t.pipeline) now, stage)
      else .error (.noChange pipeline) := Trigger.decide_material known first _ _ now
  rw [s.trigger_fst now (t := t) free found, decided]
  by_cases change : t.isChange (s.latest? t.pipeline) = true
  · rw [if_pos change]
    exact (if_pos change).symm
  · rw [if_neg change]
    exact (if_neg change).symm

end Scheduler

end Material

end BuildDispatch
