import BuildDispatch.Proofs.Config
import Mathlib.Data.List.Nodup

/-!
The fault for which a configuration is refused. It is the first one in the order in which the
configuration is written, and a configuration is accepted if and only if there is none
(`Config.refused_for_first_fault`).
-/
namespace BuildDispatch

/-- How a stage fails first: it has no jobs, or a job has the name of one before it. -/
inductive Stage.FirstFault (pipeline : String) (s : Stage) : ConfigFault → Prop where
  | noJobs (empty : s.jobs = []) : FirstFault pipeline s (.noJobs pipeline s.name)
  | repeatedJob {before after : List JobTemplate} {j : JobTemplate}
      (split : s.jobs = before ++ j :: after) (distinct : (before.map (·.name)).Nodup)
      (again : j.name ∈ before.map (·.name)) :
      FirstFault pipeline s (.repeatedJob pipeline s.name j.name)

/-- How a pipeline fails first, apart from its name: it has no stages, or the stages before this one
are usable. -/
inductive Pipeline.FirstFault (p : Pipeline) : ConfigFault → Prop where
  | noStages (empty : p.stages = []) : FirstFault p (.noStages p.name)
  | inStage {before after : List Stage} {s : Stage} {fault : ConfigFault}
      (split : p.stages = before ++ s :: after) (usable : ∀ s ∈ before, s.Usable)
      (fails : s.FirstFault p.name fault) : FirstFault p fault

/-- How a configuration fails first. The pipelines before have names of their own and are usable. -/
inductive Config.FirstFault (c : Config) : ConfigFault → Prop where
  | repeatedPipeline {before after : List Pipeline} {p : Pipeline}
      (split : c.pipelines = before ++ p :: after) (distinct : (before.map (·.name)).Nodup)
      (usable : ∀ q ∈ before, q.Usable) (again : p.name ∈ before.map (·.name)) :
      FirstFault c (.repeatedPipeline p.name)
  | inPipeline {before after : List Pipeline} {p : Pipeline} {fault : ConfigFault}
      (split : c.pipelines = before ++ p :: after) (distinct : (before.map (·.name)).Nodup)
      (usable : ∀ q ∈ before, q.Usable) (new : p.name ∉ before.map (·.name))
      (fails : p.FirstFault fault) : FirstFault c fault

def ConfigFault.subjects : ConfigFault → List String
  | repeatedPipeline pipeline => [pipeline]
  | noStages pipeline => [pipeline]
  | noJobs pipeline stage => [pipeline, stage]
  | repeatedJob pipeline stage job => [pipeline, stage, job]

def Mentions (text part : String) : Prop := ∃ before after, text = before ++ part ++ after

namespace Config

theorem firstRepeated?_append (seen names more : List String) :
    firstRepeated? seen (names ++ more) =
      (firstRepeated? seen names).or (firstRepeated? (names.reverse ++ seen) more) := by
  induction names generalizing seen with
  | nil => rfl
  | cons n rest ih =>
    rw [List.cons_append, firstRepeated?, firstRepeated?, ih]
    split_ifs
    · rfl
    · rw [List.reverse_cons, List.append_assoc]
      rfl

/-- The names before the one that is repeated first are not repeated. -/
theorem firstRepeated?_eq_some_iff {names seen : List String} {name : String} :
    firstRepeated? seen names = some name ↔ ∃ before after, names = before ++ name :: after ∧
      firstRepeated? seen before = none ∧ (name ∈ seen ∨ name ∈ before) := by
  constructor
  · intro found
    induction names generalizing seen with
    | nil => cases found
    | cons n rest ih =>
      rw [firstRepeated?] at found
      split_ifs at found with old
      · cases found
        exact ⟨[], rest, rfl, rfl, .inl old⟩
      · obtain ⟨before, after, rfl, unrepeated, again⟩ := ih found
        refine ⟨n :: before, after, rfl, ?_, by grind⟩
        rw [firstRepeated?, if_neg old]
        exact unrepeated
  · rintro ⟨before, after, rfl, unrepeated, again⟩
    have old : name ∈ before.reverse ++ seen := by
      rw [List.mem_append, List.mem_reverse]
      exact again.symm
    rw [firstRepeated?_append, unrepeated, Option.none_or, firstRepeated?, if_pos old]

theorem stageFault?_eq_some_iff {pipeline : String} {s : Stage} {fault : ConfigFault} :
    stageFault? pipeline s = some fault ↔ s.FirstFault pipeline fault := by
  unfold stageFault?
  cases hj : s.jobs with
  | nil =>
    rw [List.isEmpty_nil, if_pos rfl]
    constructor
    · intro found
      cases found
      exact .noJobs hj
    · intro fails
      cases fails with
      | noJobs => rfl
      | repeatedJob split =>
        rw [hj] at split
        exact absurd split.symm (List.append_ne_nil_of_right_ne_nil _ (List.cons_ne_nil _ _))
  | cons first rest =>
    rw [List.isEmpty_cons, if_neg Bool.false_ne_true, ← hj, Option.map_eq_some_iff]
    constructor
    · rintro ⟨name, found, rfl⟩
      obtain ⟨names, later, split, unrepeated, again⟩ := firstRepeated?_eq_some_iff.1 found
      obtain ⟨before, tail, jobs, rfl, same⟩ := List.map_eq_append_iff.1 split
      obtain ⟨j, after, rfl, rfl, rfl⟩ := List.map_eq_cons_iff.1 same
      have distinct := (firstRepeated?_eq_none_iff.1 unrepeated).1
      exact .repeatedJob jobs distinct (again.resolve_left List.not_mem_nil)
    · intro fails
      cases fails with
      | noJobs empty =>
        rw [hj] at empty
        cases empty
      | @repeatedJob before after j split distinct again =>
        refine ⟨j.name, firstRepeated?_eq_some_iff.2 ?_, rfl⟩
        rw [split, List.map_append, List.map_cons]
        exact ⟨_, _, rfl, firstRepeated?_eq_none_iff.2 ⟨distinct, by simp⟩, .inr again⟩

theorem pipelineFault?_eq_some_iff {p : Pipeline} {fault : ConfigFault} :
    pipelineFault? p = some fault ↔ p.FirstFault fault := by
  unfold pipelineFault?
  cases hs : p.stages with
  | nil =>
    rw [List.isEmpty_nil, if_pos rfl]
    constructor
    · intro found
      cases found
      exact .noStages hs
    · intro fails
      cases fails with
      | noStages => rfl
      | inStage split =>
        rw [hs] at split
        exact absurd split.symm (List.append_ne_nil_of_right_ne_nil _ (List.cons_ne_nil _ _))
  | cons first rest =>
    rw [List.isEmpty_cons, if_neg Bool.false_ne_true, ← hs, List.findSome?_eq_some_iff]
    simp only [stageFault?_eq_some_iff, stageFault?_eq_none_iff]
    constructor
    · rintro ⟨before, s, after, split, fails, usable⟩
      exact .inStage split usable fails
    · intro fails
      cases fails with
      | noStages empty =>
        rw [hs] at empty
        cases empty
      | inStage split usable fails => exact ⟨_, _, _, split, fails, usable⟩

def faultAt? (seen : List String) (p : Pipeline) : Option ConfigFault :=
  if p.name ∈ seen then some (.repeatedPipeline p.name) else pipelineFault? p

theorem faultAt?_congr {seen seen' : List String} {p : Pipeline}
    (same : p.name ∈ seen ↔ p.name ∈ seen') : faultAt? seen p = faultAt? seen' p := by
  unfold faultAt?
  simp only [same]

theorem faultAfter?_cons (seen : List String) (p : Pipeline) (rest : List Pipeline) :
    faultAfter? seen (p :: rest) = (faultAt? seen p).or (faultAfter? (p.name :: seen) rest) := by
  rw [faultAfter?, faultAt?]
  split_ifs
  · rfl
  · cases pipelineFault? p <;> rfl

theorem faultAfter?_append (seen : List String) (pipelines more : List Pipeline) :
    faultAfter? seen (pipelines ++ more) = (faultAfter? seen pipelines).or
      (faultAfter? ((pipelines.map (·.name)).reverse ++ seen) more) := by
  induction pipelines generalizing seen with
  | nil => rfl
  | cons p rest ih =>
    rw [List.cons_append, faultAfter?_cons, faultAfter?_cons, ih, Option.or_assoc, List.map_cons,
      List.reverse_cons, List.append_assoc]
    rfl

/-- The pipelines before the one with the first fault have none. -/
theorem faultAfter?_eq_some_iff {pipelines : List Pipeline} {seen : List String}
    {fault : ConfigFault} : faultAfter? seen pipelines = some fault ↔
      ∃ before p after, pipelines = before ++ p :: after ∧ faultAfter? seen before = none ∧
        faultAt? (seen ++ before.map (·.name)) p = some fault := by
  constructor
  · intro found
    induction pipelines generalizing seen with
    | nil => cases found
    | cons q rest ih =>
      rw [faultAfter?_cons] at found
      cases here : faultAt? seen q with
      | some first =>
        rw [here] at found
        cases found
        exact ⟨[], q, rest, rfl, rfl, by rwa [List.map_nil, List.append_nil]⟩
      | none =>
        rw [here, Option.none_or] at found
        obtain ⟨before, p, after, rfl, sound, fails⟩ := ih found
        -- What follows this pipeline comes after its name too.
        have moved : faultAt? (q.name :: seen ++ before.map (·.name)) p =
            faultAt? (seen ++ (q :: before).map (·.name)) p := faultAt?_congr (by grind)
        refine ⟨q :: before, p, after, rfl, ?_, moved ▸ fails⟩
        rw [faultAfter?_cons, here]
        exact sound
  · rintro ⟨before, p, after, rfl, sound, fails⟩
    have moved : faultAt? ((before.map (·.name)).reverse ++ seen) p =
        faultAt? (seen ++ before.map (·.name)) p := faultAt?_congr (by grind)
    rw [faultAfter?_append, sound, Option.none_or, faultAfter?_cons, moved, fails]
    rfl

theorem fault?_eq_some_iff {c : Config} {fault : ConfigFault} :
    c.fault? = some fault ↔ c.FirstFault fault := by
  unfold fault?
  rw [faultAfter?_eq_some_iff]
  constructor
  · rintro ⟨before, p, after, split, sound, fails⟩
    obtain ⟨distinct, -, usable⟩ := faultAfter?_eq_none_iff.1 sound
    rw [List.nil_append, faultAt?] at fails
    split_ifs at fails with again
    · cases fails
      exact .repeatedPipeline split distinct usable again
    · exact .inPipeline split distinct usable again (pipelineFault?_eq_some_iff.1 fails)
  · intro fails
    cases fails with
    | repeatedPipeline split distinct usable again =>
      exact ⟨_, _, _, split, faultAfter?_eq_none_iff.2 ⟨distinct, by simp, usable⟩, if_pos again⟩
    | inPipeline split distinct usable new fails =>
      refine ⟨_, _, _, split, faultAfter?_eq_none_iff.2 ⟨distinct, by simp, usable⟩, ?_⟩
      exact (if_neg new).trans (pipelineFault?_eq_some_iff.2 fails)

def ReadFrom (c : Config) (text : String) : Prop :=
  (Toml.document? text).map (form.read .table 0) = some (.ok c)

theorem ReadFrom.parse_eq {c : Config} {text : String} (h : c.ReadFrom text) :
    parse text =
      match c.fault? with
      | some fault => .error (.invalid fault)
      | none => .ok c := by
  obtain ⟨d, document, read⟩ := Option.map_eq_some_iff.1 h
  cases fault : c.fault? with
  | none => simp only [parse, document, read, fault]
  | some first => simp only [parse, document, read, fault]

/-- In a usable configuration a pipeline is found by its name if and only if it is listed. -/
theorem Usable.pipeline?_eq_some_iff {c : Config} (h : c.Usable) {name : String} {p : Pipeline} :
    c.pipeline? name = some p ↔ p ∈ c.pipelines ∧ p.name = name := by
  constructor
  · exact of_pipeline?
  · rintro ⟨listed, rfl⟩
    cases found : c.pipeline? p.name with
    | none =>
      have absent := List.find?_eq_none.1 found p listed
      simp at absent
    | some q =>
      obtain ⟨listed', same⟩ := of_pipeline? found
      rw [List.inj_on_of_nodup_map h.names listed' listed same]

/-- The permissions of a usable configuration know the operators of just its pipelines. -/
theorem Usable.get?_operators_eq {c : Config} (h : c.Usable) (name : String) :
    (Permissions.ofConfig c).operators.get? name =
      (c.pipeline? name).map fun p => .ofKeys p.operators := by
  cases found : c.pipeline? name with
  | some p =>
    obtain ⟨listed, rfl⟩ := of_pipeline? found
    exact Permissions.get?_operators h listed
  | none =>
    have absent : name ∉ (c.pipelines.map fun p => (p.name, Table.ofKeys p.operators)).map
        Prod.fst := by
      rw [List.map_map, List.mem_map]
      rintro ⟨p, listed, same⟩
      have other := List.find?_eq_none.1 found p listed
      exact other (decide_eq_true same)
    exact Table.get?_insertAll_of_not_mem absent Table.empty

end Config

theorem ConfigFault.message_mentions (fault : ConfigFault) :
    ∀ part ∈ fault.subjects, Mentions fault.message part := by
  intro part listed
  cases fault with
  | repeatedPipeline pipeline =>
    rw [List.mem_singleton.1 listed]
    exact ⟨"pipeline '", "' is defined twice", rfl⟩
  | noStages pipeline =>
    rw [List.mem_singleton.1 listed]
    exact ⟨"pipeline '", "' has no stages", rfl⟩
  | noJobs pipeline stage =>
    simp only [subjects, List.mem_cons, List.not_mem_nil, or_false] at listed
    rcases listed with rfl | rfl
    · exact ⟨"stage '", "/" ++ stage ++ "' has no jobs",
        by simp [message, toString, String.append_assoc]⟩
    · exact ⟨"stage '" ++ pipeline ++ "/", "' has no jobs", rfl⟩
  | repeatedJob pipeline stage job =>
    simp only [subjects, List.mem_cons, List.not_mem_nil, or_false] at listed
    rcases listed with rfl | rfl | rfl
    · exact ⟨"job '" ++ job ++ "' is defined twice in '", "/" ++ stage ++ "'",
        by simp [message, toString, String.append_assoc]⟩
    · exact ⟨"job '" ++ job ++ "' is defined twice in '" ++ pipeline ++ "/", "'", rfl⟩
    · exact ⟨"job '", "' is defined twice in '" ++ pipeline ++ "/" ++ stage ++ "'",
        by simp [message, toString, String.append_assoc]⟩

theorem ConfigError.message_invalid (fault : ConfigFault) :
    (invalid fault).message = "invalid configuration: " ++ fault.message := rfl

theorem ConfigError.invalid_mentions (fault : ConfigFault) :
    ∀ part ∈ fault.subjects, Mentions (invalid fault).message part := by
  intro part listed
  obtain ⟨before, after, told⟩ := fault.message_mentions part listed
  refine ⟨"invalid configuration: " ++ before, after, ?_⟩
  rw [message_invalid, told, String.append_assoc, String.append_assoc, String.append_assoc]

namespace Config

/--
A configuration that is read from a text is accepted if and only if it is usable. Otherwise it is
refused for its first fault, and the message tells what that is about. In an accepted one a name
stands for one pipeline at most, the one that is found and whose operators may trigger it.
-/
theorem refused_for_first_fault {c : Config} {text : String} (read : c.ReadFrom text) :
    (parse text = .ok c ↔ c.Usable) ∧
    (∀ fault, parse text = .error (.invalid fault) ↔ c.FirstFault fault) ∧
    (¬c.Usable → ∃ fault, parse text = .error (.invalid fault) ∧
      ∀ part ∈ fault.subjects, Mentions (ConfigError.invalid fault).message part) ∧
    (parse text = .ok c → ∀ name,
      (∀ p, c.pipeline? name = some p ↔ p ∈ c.pipelines ∧ p.name = name) ∧
      (Permissions.ofConfig c).operators.get? name =
        (c.pipeline? name).map fun p => .ofKeys p.operators) := by
  rw [read.parse_eq, ← fault?_eq_none_iff]
  cases found : c.fault? with
  | none =>
    have usable := fault?_eq_none_iff.1 found
    refine ⟨by simp, fun fault => ?_, by simp, fun _ name => ?_⟩
    · rw [← fault?_eq_some_iff, found]
      simp
    · exact ⟨fun p => usable.pipeline?_eq_some_iff, usable.get?_operators_eq name⟩
  | some first =>
    refine ⟨by simp, fun fault => ?_, fun _ => ⟨first, rfl, ?_⟩, fun accepted => ?_⟩
    · rw [← fault?_eq_some_iff, found]
      simp
    · exact ConfigError.invalid_mentions first
    · cases accepted

/-- The second stage has a job twice, and later the name of the pipeline comes again. -/
def faultyText : String :=
  "[[pipeline]]\nname=\"p\"\n[[pipeline.stage]]\nname=\"s\"\n" ++
  "[[pipeline.stage.job]]\nname=\"j\"\n" ++
  "[[pipeline.stage]]\nname=\"t\"\n[[pipeline.stage.job]]\nname=\"j\"\n" ++
  "[[pipeline.stage.job]]\nname=\"j\"\n[[pipeline]]\nname=\"p\"\nstage=[]\n"

def faulty : Config :=
  let stages : List Stage := [⟨"s", [⟨"j", [], []⟩]⟩, ⟨"t", [⟨"j", [], []⟩, ⟨"j", [], []⟩]⟩]
  ⟨false, .unrestricted, [⟨"p", [], [], ∅, stages⟩, ⟨"p", [], [], ∅, []⟩]⟩

/-- The two stages have a job of one name. -/
def soundText : String :=
  "[[pipeline]]\nname=\"p\"\noperators=[\"o\"]\n[[pipeline.stage]]\nname=\"s\"\n" ++
  "[[pipeline.stage.job]]\nname=\"j\"\n[[pipeline.stage]]\nname=\"t\"\n" ++
  "[[pipeline.stage.job]]\nname=\"j\"\n"

def sound : Config :=
  let stages : List Stage := [⟨"s", [⟨"j", [], []⟩]⟩, ⟨"t", [⟨"j", [], []⟩]⟩]
  ⟨false, .unrestricted, [⟨"p", ["o"], [], ∅, stages⟩]⟩

theorem readFrom_faultyText : faulty.ReadFrom faultyText := by
  unfold ReadFrom
  decide +kernel

theorem readFrom_soundText : sound.ReadFrom soundText := by
  unfold ReadFrom
  decide +kernel

theorem refused_for_first_fault_second_stage :
    parse faultyText = .error (.invalid (.repeatedJob "p" "t" "j")) ∧
      parse soundText = .ok sound ∧
      (Permissions.ofConfig sound).operators.get? "p" = some (.ofKeys ["o"]) := by
  obtain ⟨-, refused, -⟩ := refused_for_first_fault readFrom_faultyText
  obtain ⟨accepted, -, -, found⟩ := refused_for_first_fault readFrom_soundText
  have first : Stage.Usable ⟨"s", [⟨"j", [], []⟩]⟩ := ⟨by simp, by simp⟩
  have fails : faulty.FirstFault (.repeatedJob "p" "t" "j") := by
    apply @FirstFault.inPipeline _ [] _ _ _ rfl .nil (by simp) (by simp)
    apply @Pipeline.FirstFault.inStage _ [⟨"s", [⟨"j", [], []⟩]⟩] _ _ _ rfl (by simpa using first)
    exact @Stage.FirstFault.repeatedJob _ _ [⟨"j", [], []⟩] _ ⟨"j", [], []⟩ rfl (by simp) (by simp)
  have usable : sound.Usable := fault?_eq_none_iff.1 (by decide)
  have parsed := accepted.2 usable
  exact ⟨(refused _).2 fails, parsed, (found parsed "p").2⟩

end Config

end BuildDispatch
