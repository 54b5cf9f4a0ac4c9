import BuildDispatch.Payload
import BuildDispatch.Proofs.Program
import Mathlib.Data.Set.Basic

/-!
A payload whose file changes, also from one look at it to the next, and the store that publishes it.
What the store keeps does not show, unless a version of the file has the length of bytes that were
read and the time that was told before them (`PayloadStore.manifest_is_current`). Then the manifest
of other bytes may be told of it (`PayloadStore.manifest_outdated_by_torn_read`).
-/
namespace BuildDispatch.PayloadStore

open Program (Run Trace run_done_iff run_act_iff run_bind_iff)

/-- A file as it was at the latest look, and the time that was told of it last. -/
structure Looked where
  file : Option FileVersion
  time : Option Int

/--
Before each look the file may become any of `versions`, or go. The bytes that a read finds and the
time that it was told before are one of `pairs`.
-/
def Looks (versions pairs : Set FileVersion) : Program.Rule Look Looked := fun _ s x found t =>
  (∀ v, t.file = some v → v ∈ versions) ∧ found = x.find (t.file.map .file) ∧
    match x with
    | .stat _ => t.time = t.file.map (·.modified)
    | .content _ => t.time = s.time ∧
        ∀ v time, t.file = some v → s.time = some time → ⟨v.content, time⟩ ∈ pairs

/-- Versions of one length and one time have the same bytes. -/
def Dated (versions : Set FileVersion) : Prop :=
  ∀ v ∈ versions, ∀ w ∈ versions, v.content.length.toUInt64 = w.content.length.toUInt64 →
    v.modified = w.modified → v.content = w.content

/-- A store that was asked for manifests and payloads in any order. -/
inductive Reached (versions pairs : Set FileVersion) (path version : Option String) :
    PayloadStore → Prop where
  | new : Reached versions pairs path version (.new path version)
  | manifest {s t : Looked} {store store' : PayloadStore} {trace : Trace Look}
      {answer : Except PayloadError Manifest} (before : Reached versions pairs path version store)
      (run : Run (Looks versions pairs) s store.manifest trace (answer, store') t) :
      Reached versions pairs path version store'
  | read {s t : Looked} {store store' : PayloadStore} {trace : Trace Look}
      {answer : Except PayloadError (Manifest × Bytes)}
      (before : Reached versions pairs path version store)
      (run : Run (Looks versions pairs) s store.read trace (answer, store') t) :
      Reached versions pairs path version store'

/-- What is told of a file by a store that keeps nothing. -/
def tells (path version : Option String) (file : Option FileVersion) :
    Except PayloadError (Manifest × Bytes) :=
  match path, file with
  | none, _ => .error .notPublished
  | some path, none => .error (.unreadable path .missing)
  | some _, some v => .ok (.describe (Manifest.versionOf version v.content) v.content, v.content)

variable {versions pairs : Set FileVersion} {path version : Option String} {s t : Looked}
  {store store' : PayloadStore} {trace : Trace Look}

/-- What is kept was made of bytes that were read after the time was told. -/
structure Sound (pairs : Set FileVersion) (path version : Option String) (store : PayloadStore) :
    Prop where
  path : store.path = path
  version : store.version = version
  kept : ∀ k time, store.kept = some k → k.modified = some time →
    ∃ content, ⟨content, time⟩ ∈ pairs ∧ k.length = content.length.toUInt64 ∧
      k.manifest = store.describe content

/-- A read tells what is there at its last look, and keeps what it has found. -/
theorem run_read {answer : Except PayloadError (Manifest × Bytes)}
    (run : Run (Looks versions pairs) s store.read trace (answer, store') t) :
    answer = tells store.path store.version t.file ∧
      (store' = store ∨ ∃ v modified, t.file = some v ∧
        (∀ time, modified = some time → ⟨v.content, time⟩ ∈ pairs) ∧
        store' = { store with
          kept := some ⟨v.content.length.toUInt64, modified, store.describe v.content⟩ }) := by
  unfold read at run
  cases published : store.path with
  | none =>
    rw [published] at run
    obtain ⟨-, told, -⟩ := run_done_iff.1 run
    cases told
    exact ⟨rfl, .inl rfl⟩
  | some path =>
    rw [published] at run
    obtain ⟨stat, u, _, -, ⟨-, rfl, time⟩, run⟩ := run_act_iff.1 run
    obtain ⟨content, w, _, -, ⟨-, rfl, -, paired⟩, run⟩ := run_act_iff.1 run
    cases there : w.file with
    | none =>
      rw [there] at run
      obtain ⟨-, told, rfl⟩ := run_done_iff.1 run
      cases told
      rw [there]
      exact ⟨rfl, .inl rfl⟩
    | some v =>
      rw [there] at run
      obtain ⟨-, told, rfl⟩ := run_done_iff.1 run
      cases told
      rw [there]
      refine ⟨rfl, .inr ⟨v, _, rfl, fun told before => paired v told there ?_, rfl⟩⟩
      rw [time]
      cases earlier : u.file with
      | none => simp [earlier, Look.find, PathTarget.stat, Except.toOption] at before
      | some w => simpa [earlier, Look.find, PathTarget.stat, Except.toOption] using before

/-- A manifest is the one kept of such a file, or it comes of a read. -/
theorem run_manifest {answer : Except PayloadError Manifest}
    (run : Run (Looks versions pairs) s store.manifest trace (answer, store') t) :
    (∃ path v m, store.path = some path ∧ t.file = some v ∧ v ∈ versions ∧
      store.keptFor? ⟨v.content.length.toUInt64, some v.modified⟩ = some m ∧
      answer = .ok m ∧ store' = store) ∨
    (answer = (tells store.path store.version t.file).map Prod.fst ∧ store' = store) ∨
    ∃ u later whole, Run (Looks versions pairs) u store.read later (whole, store') t ∧
      answer = whole.map Prod.fst := by
  unfold manifest at run
  cases published : store.path with
  | none =>
    rw [published] at run
    obtain ⟨-, told, -⟩ := run_done_iff.1 run
    cases told
    exact .inr (.inl ⟨rfl, rfl⟩)
  | some path =>
    rw [published] at run
    obtain ⟨stat, u, _, -, ⟨known, rfl, -⟩, run⟩ := run_act_iff.1 run
    cases there : u.file with
    | none =>
      rw [there] at run
      obtain ⟨-, told, rfl⟩ := run_done_iff.1 run
      cases told
      rw [there]
      exact .inr (.inl ⟨rfl, rfl⟩)
    | some v =>
      rw [there] at run
      change Run _ u (store.manifestFor ⟨v.content.length.toUInt64, some v.modified⟩) _ _ _ at run
      unfold manifestFor at run
      cases kept : store.keptFor? ⟨v.content.length.toUInt64, some v.modified⟩ with
      | some m =>
        rw [kept] at run
        obtain ⟨-, told, rfl⟩ := run_done_iff.1 run
        cases told
        exact .inl ⟨path, v, m, rfl, there, known v there, kept, rfl, rfl⟩
      | none =>
        rw [kept] at run
        obtain ⟨_, _, ⟨whole, next⟩, w, -, read, rest⟩ := run_bind_iff.1 run
        obtain ⟨-, told, rfl⟩ := run_done_iff.1 rest
        cases told
        exact .inr (.inr ⟨u, _, whole, read, rfl⟩)

theorem keptFor?_eq_some {stat : FileStat} {m : Manifest} (h : store.keptFor? stat = some m) :
    store.kept = some ⟨stat.length, stat.modified, m⟩ := by
  unfold keptFor? at h
  cases kept : store.kept with
  | none => simp [kept] at h
  | some k =>
    simp only [kept, Option.ite_none_right_eq_some, Option.some.injEq] at h
    obtain ⟨⟨length, modified⟩, rfl⟩ := h
    rw [← length, ← modified]

namespace Sound

theorem new : Sound pairs path version (.new path version) := ⟨rfl, rfl, nofun⟩

theorem read {answer : Except PayloadError (Manifest × Bytes)} (h : Sound pairs path version store)
    (run : Run (Looks versions pairs) s store.read trace (answer, store') t) :
    Sound pairs path version store' := by
  obtain ⟨-, rfl | ⟨v, modified, -, paired, rfl⟩⟩ := run_read run
  · exact h
  · refine ⟨h.path, h.version, ?_⟩
    rintro _ time ⟨⟩ told
    exact ⟨v.content, paired time told, rfl, rfl⟩

theorem manifest {answer : Except PayloadError Manifest} (h : Sound pairs path version store)
    (run : Run (Looks versions pairs) s store.manifest trace (answer, store') t) :
    Sound pairs path version store' := by
  rcases run_manifest run with ⟨_, _, _, -, -, -, -, -, rfl⟩ | ⟨-, rfl⟩ | ⟨_, _, _, read, -⟩
  · exact h
  · exact h
  · exact h.read read

/-- What is kept of a file like the one that is there was made of the same bytes. -/
theorem truthful (h : Sound pairs path version store) (dated : Dated (versions ∪ pairs))
    {v : FileVersion} (known : v ∈ versions) {m : Manifest}
    (kept : store.keptFor? ⟨v.content.length.toUInt64, some v.modified⟩ = some m) :
    m = store.describe v.content := by
  obtain ⟨content, paired, length, made⟩ := h.kept _ v.modified (keptFor?_eq_some kept) rfl
  have same := dated v (.inl known) ⟨content, v.modified⟩ (.inr paired) length rfl
  rw [same]
  exact made

end Sound

theorem Reached.sound (h : Reached versions pairs path version store) :
    Sound pairs path version store := by
  induction h with
  | new => exact .new
  | manifest _ run ih => exact ih.manifest run
  | read _ run ih => exact ih.read run

/-- Nothing stops a look: the file may always be gone. -/
theorem looks_total (β : Type) (s : Looked) (x : Look β) :
    ∃ found t, Looks versions pairs β s x found t := by
  cases x with
  | stat path => exact ⟨_, ⟨none, none⟩, nofun, rfl, rfl⟩
  | content path => exact ⟨_, ⟨none, s.time⟩, nofun, rfl, rfl, nofun⟩

/-- Looks between which nothing changes put nothing together but what is there. -/
theorem run_atOnce {α : Type} {file : Option FileVersion} (sub : versions ⊆ pairs)
    (known : ∀ v, file = some v → v ∈ versions) (looks : Program Look α) :
    let s : Looked := ⟨file, file.map (·.modified)⟩
    ∃ trace, Run (Looks versions pairs) s looks trace (looks.atOnce (file.map .file)) s := by
  intro s
  induction looks with
  | done a => exact ⟨[], .done⟩
  | act x next ih =>
    have step : Looks versions pairs _ s x (x.find (file.map .file)) s := by
      refine ⟨known, rfl, ?_⟩
      cases x with
      | stat => rfl
      | content =>
        refine ⟨rfl, ?_⟩
        rintro v time there told
        obtain rfl : file = some v := there
        obtain rfl : v.modified = time := Option.some.inj told
        exact sub (known v rfl)
    obtain ⟨trace, run⟩ := ih (x.find (file.map .file))
    exact ⟨_, .act step run⟩

namespace Reached

variable {p : String} (reached : Reached versions pairs (some p) version store)
  {v : FileVersion} (known : v ∈ versions)
include reached known

/-- A read may be told the time of one version, and find the bytes of another. -/
theorem exists_read {w : FileVersion} (earlier : w ∈ versions)
    (paired : ⟨v.content, w.modified⟩ ∈ pairs) :
    ∃ next, Reached versions pairs (some p) version next ∧
      next.kept = some ⟨v.content.length.toUInt64, some w.modified, next.describe v.content⟩ := by
  have first : Looks versions pairs _ ⟨none, none⟩ (.stat p)
      (.ok ⟨w.content.length.toUInt64, some w.modified⟩) ⟨some w, some w.modified⟩ := by
    refine ⟨?_, rfl, rfl⟩
    rintro _ ⟨⟩
    exact earlier
  have second : Looks versions pairs _ ⟨some w, some w.modified⟩ (.content p) (.ok v.content)
      ⟨some v, some w.modified⟩ := by
    refine ⟨?_, rfl, rfl, ?_⟩
    · rintro _ ⟨⟩
      exact known
    · rintro _ _ ⟨⟩ ⟨⟩
      exact paired
  have run : ∃ trace, Run (Looks versions pairs) ⟨none, none⟩ store.read trace
      (.ok (store.describe v.content, v.content), { store with
        kept := some ⟨v.content.length.toUInt64, some w.modified, store.describe v.content⟩ })
      ⟨some v, some w.modified⟩ := by
    unfold PayloadStore.read
    rw [reached.sound.path]
    exact ⟨_, .act first (.act second .done)⟩
  obtain ⟨_, run⟩ := run
  exact ⟨_, reached.read run, rfl⟩

theorem exists_kept (sub : versions ⊆ pairs) {m : Manifest}
    (kept : store.kept = some ⟨v.content.length.toUInt64, some v.modified, m⟩) :
    ∃ trace, Run (Looks versions pairs) ⟨some v, some v.modified⟩ store.manifest trace
      (.ok m, store) ⟨some v, some v.modified⟩ := by
  have found : store.keptFor? ⟨v.content.length.toUInt64, some v.modified⟩ = some m := by
    simp [keptFor?, kept]
  have answer : store.manifest.atOnce (some (.file v)) = (.ok m, store) := by
    unfold PayloadStore.manifest
    rw [reached.sound.path]
    change (store.manifestFor ⟨v.content.length.toUInt64, some v.modified⟩).atOnce _ = _
    rw [manifestFor, found]
    rfl
  have there : ∀ w, some v = some w → w ∈ versions := by
    rintro _ ⟨⟩
    exact known
  obtain ⟨trace, run⟩ := run_atOnce sub there store.manifest
  rw [← answer]
  exact ⟨trace, run⟩

end Reached

theorem tells_ok {file : Option FileVersion} {m : Manifest} {content : Bytes}
    (told : tells path version file = .ok (m, content)) :
    file.map (·.content) = some content ∧ m.verifies content = true ∧
      m.checksum = Sha256.hex content ∧
      m.version = version.getD (String.ofList (m.checksum.toList.take 12)) := by
  cases path with
  | none => cases told
  | some path =>
    cases file with
    | none => cases told
    | some v =>
      cases told
      refine ⟨rfl, Manifest.verifies_describe _ v.content, rfl, ?_⟩
      cases version <;> rfl

/--
A payload's file is written, removed and made anew in any way, between calls and within them, while
its manifest and its bytes are asked for. The versions of the file and what reads put together, the
time told and the bytes found after it, have the same bytes where they have one length and one time.
Then each manifest that is told is the one of the file as it is at the last look of the call, and so
is each payload.
-/
theorem manifest_is_current (dated : Dated (versions ∪ pairs))
    (reached : Reached versions pairs path version store) :
    (∀ s trace answer store' t,
      Run (Looks versions pairs) s store.manifest trace (answer, store') t →
        answer = (tells path version t.file).map Prod.fst) ∧
    (∀ s trace answer store' t,
      Run (Looks versions pairs) s store.read trace (answer, store') t →
        answer = tells path version t.file) ∧
    (∀ s, (∃ trace answer t, Run (Looks versions pairs) s store.manifest trace answer t) ∧
      ∃ trace answer t, Run (Looks versions pairs) s store.read trace answer t) ∧
    ∀ file, ((new path version).manifest.atOnce (file.map .file)).1 =
        (tells path version file).map Prod.fst ∧
      ((new path version).read.atOnce (file.map .file)).1 = tells path version file ∧
      ∀ m content, tells path version file = .ok (m, content) →
        file.map (·.content) = some content ∧ m.verifies content = true ∧
        m.checksum = Sha256.hex content ∧
        m.version = version.getD (String.ofList (m.checksum.toList.take 12)) := by
  have sound : Sound pairs path version store := reached.sound
  refine ⟨fun s trace answer store' t run => ?_, fun s trace answer store' t run => ?_,
    fun s => ⟨?_, ?_⟩, fun file => ⟨?_, ?_, fun m content => tells_ok⟩⟩
  · rcases run_manifest run with ⟨p, v, m, published, there, known, kept, rfl, -⟩ |
      ⟨told, -⟩ | ⟨_, _, whole, read, rfl⟩
    · rw [sound.truthful dated known kept, there, ← sound.path, published, describe, sound.version]
      rfl
    · rw [told, sound.path, sound.version]
    · rw [(run_read read).1, sound.path, sound.version]
  · rw [(run_read run).1, sound.path, sound.version]
  · exact Program.exists_run looks_total _ s
  · exact Program.exists_run looks_total _ s
  · cases path <;> cases file <;> rfl
  · cases path <;> cases file <;> rfl

/-- A read finds the time of one version and the bytes of the next; then the first is put back. -/
theorem manifest_is_current_put_back :
    let old : FileVersion := ⟨[1, 2, 3], 5⟩
    let young : FileVersion := ⟨[4, 5, 6, 7], 6⟩
    let versions : Set FileVersion := {old, young}
    let pairs : Set FileVersion := {⟨young.content, old.modified⟩} ∪ versions
    Dated (versions ∪ pairs) ∧ ∃ store s trace m t,
      Reached versions pairs (some "agent") none store ∧
      Run (Looks versions pairs) s store.manifest trace (.ok m, store) t ∧
      t.file = some old ∧ m = .describe (Manifest.versionOf none old.content) old.content := by
  intro old young versions pairs
  have dated : Dated (versions ∪ pairs) := by
    rintro v ((rfl | rfl) | rfl | rfl | rfl) w ((rfl | rfl) | rfl | rfl | rfl)
    all_goals decide
  have start : Reached versions pairs (some "agent") none (.new (some "agent") none) := .new
  obtain ⟨_, torn, -⟩ := start.exists_read (v := young) (.inr rfl) (.inl rfl) (.inl rfl)
  obtain ⟨_, whole, kept⟩ := torn.exists_read (v := old) (.inl rfl) (.inl rfl) (.inr (.inl rfl))
  obtain ⟨_, run⟩ := whole.exists_kept (.inl rfl) Set.subset_union_right kept
  obtain ⟨told, -⟩ := manifest_is_current dated whole
  exact ⟨dated, _, _, _, _, _, whole, run, rfl, Except.ok.inj (told _ _ _ _ _ run)⟩

/--
A read finds the time of one version and the bytes of the next. It keeps both together, and they are
told of a version that comes later, though no two versions have one length and one time.
-/
theorem manifest_outdated_by_torn_read :
    let first : FileVersion := ⟨[1], 5⟩
    let second : FileVersion := ⟨[2, 2], 6⟩
    let third : FileVersion := ⟨[3, 3], 5⟩
    let versions : Set FileVersion := {first, second, third}
    Dated versions ∧ ∃ store s trace answer t,
      Reached versions Set.univ (some "agent") none store ∧
      Run (Looks versions Set.univ) s store.manifest trace (answer, store) t ∧
      t.file = some third ∧ answer ≠ (tells (some "agent") none t.file).map Prod.fst := by
  intro first second third versions
  have dated : Dated versions := by
    rintro v (rfl | rfl | rfl) w (rfl | rfl | rfl)
    all_goals decide
  have other : Sha256.hex second.content ≠ Sha256.hex third.content := by decide +kernel
  have start : Reached versions Set.univ (some "agent") none (.new (some "agent") none) := .new
  obtain ⟨store, torn, kept⟩ := start.exists_read (v := second) (w := first) (.inr (.inl rfl))
    (.inl rfl) trivial
  obtain ⟨_, run⟩ := torn.exists_kept (v := third) (.inr (.inr rfl)) (Set.subset_univ _) kept
  refine ⟨dated, _, _, _, _, _, torn, run, rfl, fun same => other ?_⟩
  exact congrArg Manifest.checksum (Except.ok.inj same)

end BuildDispatch.PayloadStore
