import BuildDispatch.Proofs.Table
import BuildDispatch.Repository
import Mathlib.Data.List.Induction

/-!
Which cause of a pipeline a repository keeps. It decides that save by save, and comes to the last
one of those with the greatest counter (`Repository.latest_is_last_of_greatest`).
-/
namespace BuildDispatch.Repository

/-- The counter of the latest run of a pipeline, or zero. -/
def counter (r : Repository) (pipeline : String) : UInt64 :=
  match r.latest? pipeline with
  | some c => c.counter
  | none => 0

theorem latest?_saveCause (r : Repository) (c : BuildCause) (q : String) :
    (r.saveCause c).latest? q =
      if q = c.pipeline ∧ r.counter q ≤ c.counter then some c else r.latest? q := by
  have kept (t : Table String BuildCause) :
      (t.insert c.pipeline c).get? q = if q = c.pipeline then some c else t.get? q :=
    Table.get?_insert _ _ _ _
  unfold saveCause counter latest?
  by_cases hq : q = c.pipeline
  · subst hq
    cases hk : r.latestCauses.get? c.pipeline with
    | none => simp [kept]
    | some k =>
      by_cases hc : k.counter ≤ c.counter
      · simp [hc, kept]
      · simp [hc, hk]
  · cases hk : r.latestCauses.get? c.pipeline with
    | none => simp [kept, hq]
    | some k =>
      by_cases hc : k.counter ≤ c.counter
      · simp [hc, kept, hq]
      · simp [hc, hq]

theorem counter_saveCause (r : Repository) (c : BuildCause) (q : String) :
    (r.saveCause c).counter q =
      if q = c.pipeline ∧ r.counter q ≤ c.counter then c.counter else r.counter q := by
  rw [counter, latest?_saveCause]
  split_ifs
  · rfl
  · rfl

/-- What is written to a repository. -/
inductive Write where
  | job (j : Job)
  | cause (c : BuildCause)

def write (r : Repository) : Write → Repository
  | .job j => r.saveJob j
  | .cause c => r.saveCause c

def writeAll (r : Repository) (writes : List Write) : Repository := writes.foldl write r

def Write.cause? (pipeline : String) : Write → Option BuildCause
  | .cause c => if c.pipeline = pipeline then some c else none
  | .job _ => none

def causesOf (pipeline : String) (writes : List Write) : List BuildCause :=
  writes.filterMap (·.cause? pipeline)

/-- Of some causes the last one that has the greatest counter. -/
def LastOfGreatest (causes : List BuildCause) (c : BuildCause) : Prop :=
  ∃ before after, causes = before ++ c :: after ∧
    (∀ d ∈ before, d.counter ≤ c.counter) ∧ ∀ d ∈ after, d.counter < c.counter

theorem not_lastOfGreatest_nil {c : BuildCause} : ¬LastOfGreatest [] c := by
  rintro ⟨before, after, split, -⟩
  simp at split

namespace LastOfGreatest

variable {causes : List BuildCause} {c d : BuildCause}

theorem le (h : LastOfGreatest causes c) (saved : d ∈ causes) : d.counter ≤ c.counter := by
  obtain ⟨before, after, rfl, le, lt⟩ := h
  rcases List.mem_append.1 saved with early | late
  · exact le d early
  · rcases List.mem_cons.1 late with rfl | late
    · exact UInt64.le_refl _
    · exact UInt64.le_of_lt (lt d late)

/-- Another one is still the last of the greatest after one with a smaller counter. -/
theorem extend (h : LastOfGreatest causes c) (less : d.counter < c.counter) :
    LastOfGreatest (causes ++ [d]) c := by
  obtain ⟨before, after, rfl, le, lt⟩ := h
  refine ⟨before, after ++ [d], by simp, le, fun e late => ?_⟩
  rcases List.mem_append.1 late with late | last
  · exact lt e late
  · rw [List.mem_singleton.1 last]
    exact less

/-- There is one at most: of two, each would have to come after the other. -/
theorem unique (h : LastOfGreatest causes c) (h' : LastOfGreatest causes d) : c = d := by
  obtain ⟨before, after, rfl, le, lt⟩ := h
  obtain ⟨before', after', split, le', lt'⟩ := h'
  rcases List.append_eq_append_iff.1 split with ⟨between, early, late⟩ | ⟨between, early, late⟩
  · cases between with
    | nil => exact (List.cons.inj late).1
    | cons first between =>
      obtain ⟨rfl, rfl⟩ := List.cons.inj late
      have most : d.counter < c.counter := lt d (by simp)
      exact absurd most (UInt64.not_lt.2 (le' c (by simp [early])))
  · cases between with
    | nil => exact (List.cons.inj late).1.symm
    | cons first between =>
      obtain ⟨rfl, rfl⟩ := List.cons.inj late
      have most : c.counter < d.counter := lt' c (by simp)
      exact absurd most (UInt64.not_lt.2 (le d (by simp [early])))

end LastOfGreatest

/-- The repository keeps the right one of the causes that were saved for a pipeline. -/
structure Keeps (r : Repository) (pipeline : String) (causes : List BuildCause) : Prop where
  nothing : r.latest? pipeline = none → causes = []
  latest : ∀ c, r.latest? pipeline = some c → LastOfGreatest causes c

namespace Keeps

variable {r : Repository} {pipeline : String} {causes : List BuildCause}

theorem le_counter (h : r.Keeps pipeline causes) {d : BuildCause} (saved : d ∈ causes) :
    d.counter ≤ r.counter pipeline := by
  unfold counter
  cases kept : r.latest? pipeline with
  | none =>
    rw [h.nothing kept] at saved
    cases saved
  | some c => exact (h.latest c kept).le saved

theorem saveCause (h : r.Keeps pipeline causes) {c : BuildCause} (own : c.pipeline = pipeline) :
    (r.saveCause c).Keeps pipeline (causes ++ [c]) := by
  have kept := r.latest?_saveCause c pipeline
  by_cases least : r.counter pipeline ≤ c.counter
  · rw [if_pos ⟨own.symm, least⟩] at kept
    refine ⟨fun none => by simp [kept] at none, fun d stored => ?_⟩
    obtain rfl : c = d := Option.some.inj (kept.symm.trans stored)
    exact ⟨causes, [], rfl, fun e saved => UInt64.le_trans (h.le_counter saved) least, by simp⟩
  · rw [if_neg fun both => least both.2] at kept
    have less : c.counter < r.counter pipeline := UInt64.not_le.1 least
    cases former : r.latest? pipeline with
    | none =>
      rw [counter, former] at less
      exact absurd less (UInt64.not_lt.2 (UInt64.zero_le))
    | some k =>
      rw [counter, former] at less
      refine ⟨fun none => by simp [kept, former] at none, fun d stored => ?_⟩
      obtain rfl : k = d := Option.some.inj ((kept.trans former).symm.trans stored)
      exact (h.latest k former).extend less

theorem write (h : r.Keeps pipeline causes) (w : Write) :
    (r.write w).Keeps pipeline (causes ++ (w.cause? pipeline).toList) := by
  cases w with
  | job j =>
    rw [Write.cause?, Option.toList_none, List.append_nil]
    exact ⟨h.nothing, h.latest⟩
  | cause c =>
    by_cases own : c.pipeline = pipeline
    · rw [Write.cause?, if_pos own]
      exact h.saveCause own
    · have kept := r.latest?_saveCause c pipeline
      rw [if_neg fun both => own both.1.symm] at kept
      rw [Write.cause?, if_neg own, Option.toList_none, List.append_nil]
      exact ⟨fun none => h.nothing (kept.symm.trans none),
        fun d stored => h.latest d (kept.symm.trans stored)⟩

theorem writeAll (h : r.Keeps pipeline causes) (writes : List Write) :
    (r.writeAll writes).Keeps pipeline (causes ++ causesOf pipeline writes) := by
  induction writes generalizing r causes with
  | nil => simpa [causesOf, Repository.writeAll] using h
  | cons w rest ih =>
    have next := ih (h.write w)
    rw [List.append_assoc] at next
    have same : (w.cause? pipeline).toList ++ causesOf pipeline rest =
        causesOf pipeline (w :: rest) := by
      cases taken : w.cause? pipeline <;> simp [causesOf, taken]
    rwa [same] at next

theorem latest?_eq_some_iff (h : r.Keeps pipeline causes) {c : BuildCause} :
    r.latest? pipeline = some c ↔ LastOfGreatest causes c := by
  refine ⟨h.latest c, fun last => ?_⟩
  cases kept : r.latest? pipeline with
  | none =>
    rw [h.nothing kept] at last
    exact absurd last not_lastOfGreatest_nil
  | some k => rw [(h.latest k kept).unique last]

theorem latest?_eq_none_iff (h : r.Keeps pipeline causes) :
    r.latest? pipeline = none ↔ causes = [] := by
  refine ⟨h.nothing, fun empty => Option.eq_none_iff_forall_ne_some.2 fun c kept => ?_⟩
  have last := h.latest c kept
  rw [empty] at last
  exact not_lastOfGreatest_nil last

end Keeps

/--
Whatever is written to a new repository, in whatever order: of the causes of a pipeline it keeps the
last one that has the greatest counter, and none just if none was saved. Nothing else that is
written, jobs or causes of other pipelines, changes which one that is.
-/
theorem latest_is_last_of_greatest (writes : List Write) (pipeline : String) :
    let r := empty.writeAll writes
    let causes := causesOf pipeline writes
    (∀ c, r.latest? pipeline = some c ↔ LastOfGreatest causes c) ∧
    (r.latest? pipeline = none ↔ causes = []) ∧
    ∀ more, causesOf pipeline more = [] →
      (r.writeAll more).latest? pipeline = r.latest? pipeline := by
  intro r causes
  have fresh : empty.Keeps pipeline [] := ⟨fun _ => rfl, nofun⟩
  have keeps : r.Keeps pipeline causes := fresh.writeAll writes
  refine ⟨fun c => keeps.latest?_eq_some_iff, keeps.latest?_eq_none_iff, fun more others => ?_⟩
  have after := keeps.writeAll more
  rw [others, List.append_nil] at after
  refine Option.ext fun c => ?_
  rw [after.latest?_eq_some_iff, keeps.latest?_eq_some_iff]

/-- Runs that are saved late, one of them a second time, and another pipeline in between. -/
theorem latest_is_last_of_greatest_late :
    let cause (pipeline : String) (counter : UInt64) (createdAt : Timestamp) : BuildCause :=
      ⟨pipeline, counter, .materialChange, [], [], [], createdAt⟩
    let writes : List Write := [.cause (cause "site" 3 10), .cause (cause "docs" 9 11),
      .cause (cause "site" 1 12), .cause (cause "site" 3 13), .cause (cause "site" 2 14)]
    let more : List Write := [.cause (cause "docs" 12 15)]
    causesOf "site" more = [] ∧
      ((empty.writeAll writes).writeAll more).latest? "site" = some (cause "site" 3 13) := by
  intro cause writes more
  have others : causesOf "site" more = [] := by decide
  obtain ⟨latest, -, unchanged⟩ := latest_is_last_of_greatest writes "site"
  refine ⟨others, (unchanged more others).trans ((latest _).2 ?_)⟩
  exact ⟨[cause "site" 3 10, cause "site" 1 12], [cause "site" 2 14], by decide, by decide,
    by decide⟩

end BuildDispatch.Repository
