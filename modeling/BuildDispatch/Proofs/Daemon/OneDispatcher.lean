import BuildDispatch.Daemon.Startup
import Mathlib.Data.List.Nodup
import Mathlib.Data.List.Perm.Basic

/-!
Dispatchers that are started and stopped one after the other, all with one pid file. As long as
every startup that finds one running comes as far as to try the lock, at most one runs, and its pid
file stays in place (`Daemon.one_dispatcher_at_a_time`). A startup that fails before that takes the
pid file of the running dispatcher away, so that the next one starts a second
(`Daemon.second_dispatcher_after_early_failure`).
-/
namespace BuildDispatch

namespace PidSite

variable (s : PidSite) (file : Nat) (text : String) (b : Bool)

@[simp] theorem linked_write : (s.write file text).linked = s.linked := rfl

@[simp] theorem locked_write : (s.write file text).locked = s.locked := rfl

@[simp] theorem linked_setLocked : (s.setLocked file b).linked = s.linked := rfl

theorem content_write_self : (s.write file text).content file = text := if_pos rfl

theorem locked_setLocked (f : Nat) :
    (s.setLocked file b).locked f = if f = file then b else s.locked f := rfl

theorem linked_openFile : s.openFile.2.linked = some s.openFile.1 := by
  unfold openFile
  split
  case h_1 linked => exact linked
  case h_2 => rfl

@[simp] theorem locked_openFile : s.openFile.2.locked = s.locked := by
  unfold openFile
  split <;> rfl

variable {s file}

theorem openFile_of_linked (h : s.linked = some file) : s.openFile = (file, s) := by
  unfold openFile
  rw [h]

theorem locked_unlock {s' : PidSite} (free : s.locked file = false)
    (taken : s'.locked = (s.setLocked file true).locked) :
    (s'.unlock file).locked = s.locked := by
  funext f
  unfold unlock
  rw [locked_setLocked, taken, locked_setLocked]
  by_cases hf : f = file
  · rw [if_pos hf, hf, free]
  · rw [if_neg hf, if_neg hf]

end PidSite

/-- The startup comes as far as to try the lock. -/
def StartupTrials.ReachLock (t : StartupTrials) : Prop :=
  t.makeDirectory = .ok () ∧ t.openPidFile = .ok ()

namespace Daemon

@[simp] theorem locked_clear (removed : Bool) (site : PidSite) :
    (clear removed site).locked = site.locked := by
  unfold clear
  split <;> rfl

section Startup

variable (c : DaemonSettings) (pid file : Nat) (trials : StartupTrials) (site : PidSite)

theorem locked_prepare : (prepare c pid file trials site).2.locked = site.locked := by
  unfold prepare
  split <;> rfl

theorem prepare_ne_lockFailed : (prepare c pid file trials site).1 ≠ .error .lockFailed := by
  unfold prepare
  split <;> simp

variable {c pid file trials site} in
/-- Where all else went well, the pid was written. -/
theorem of_prepare_ok {d : Daemon} {site' : PidSite}
    (h : prepare c pid file trials site = (.ok d, site')) :
    d.pidFile = file ∧ site' = site.write file (pidLine pid) := by
  unfold prepare at h
  split at h <;> cases h
  exact ⟨rfl, rfl⟩

inductive Ends : Except DaemonError Daemon × PidSite → Prop where
  | early {reason : String} (short : ¬trials.ReachLock) :
    Ends (.error (.inputOutput reason), clear trials.removed site)
  | refused (reach : trials.ReachLock) (taken : site.locked site.openFile.1 = true) :
    Ends (.error .lockFailed, site.openFile.2)
  | failed {e : DaemonError} {site' : PidSite} (reach : trials.ReachLock)
    (free : site.locked site.openFile.1 = false) (other : e ≠ .lockFailed)
    (locked : site'.locked = site.locked) : Ends (.error e, site')
  | started {d : Daemon} (reach : trials.ReachLock) (free : site.locked site.openFile.1 = false)
    (opened : d.pidFile = site.openFile.1) :
    Ends (.ok d, (site.openFile.2.setLocked d.pidFile true).write d.pidFile (pidLine pid))

theorem startup_ends : Ends pid trials site (startup c pid trials site) := by
  unfold startup attempt
  cases hm : trials.makeDirectory with
  | error reason => exact .early fun h => by cases hm.symm.trans h.1
  | ok => cases ho : trials.openPidFile with
    | error reason => exact .early fun h => by cases ho.symm.trans h.2
    | ok =>
      have reach : trials.ReachLock := ⟨hm, ho⟩
      dsimp only
      unfold PidSite.lock?
      rw [PidSite.locked_openFile]
      cases taken : site.locked site.openFile.1 with
      | true => exact .refused reach taken
      | false =>
        let locked := site.openFile.2.setLocked site.openFile.1 true
        have hl := locked_prepare c pid site.openFile.1 trials locked
        have hn := prepare_ne_lockFailed c pid site.openFile.1 trials locked
        simp only [Bool.false_eq_true, if_false]
        cases hp : prepare c pid site.openFile.1 trials locked with
        | mk result site' => cases result with
          | ok d =>
            obtain ⟨opened, rfl⟩ := of_prepare_ok hp
            have h : Ends pid trials site (.ok d, (site.openFile.2.setLocked d.pidFile true).write
                d.pidFile (pidLine pid)) := .started reach taken opened
            rw [opened] at h
            exact h
          | error e =>
            rw [hp] at hl hn
            have other : e ≠ .lockFailed := fun he => hn (congrArg Except.error he)
            have freed : (site'.unlock site.openFile.1).locked = site.openFile.2.locked :=
              PidSite.locked_unlock (by rwa [PidSite.locked_openFile]) hl
            rw [PidSite.locked_openFile] at freed
            have cleared := (locked_clear trials.removed _).trans freed
            have h : Ends pid trials site (.error e, clear trials.removed _) :=
              .failed reach taken other cleared
            cases e with
            | lockFailed => exact absurd rfl other
            | _ => exact h

end Startup

structure Live where
  pid : Nat
  daemon : Daemon

/-- The pid file, and the dispatchers that run. All have the path of the pid file in common. -/
structure Scene where
  site : PidSite
  live : List Live

/-- What is done about dispatchers, each to its end before the next. -/
inductive Move where
  | start (c : DaemonSettings) (pid : Nat) (trials : StartupTrials)
  | stop (place : Nat) (removed : Bool)

namespace Scene

def move (s : Scene) : Move → Scene
  | .start c pid trials =>
    match startup c pid trials s.site with
    | (.ok d, site) => ⟨site, ⟨pid, d⟩ :: s.live⟩
    | (.error _, site) => ⟨site, s.live⟩
  | .stop place removed =>
    match s.live[place]? with
    | none => s
    | some l => ⟨l.daemon.shutdown removed s.site, s.live.eraseIdx place⟩

def run (s : Scene) (moves : List Move) : Scene := moves.foldl move s

def opening (site : PidSite) : Scene := ⟨site, []⟩

/-- The files on which dispatchers hold locks. -/
def files (s : Scene) : List Nat := s.live.map (·.daemon.pidFile)

/-- A file is locked as long as a dispatcher runs that has it, and no two have the same. -/
structure Sound (s : Scene) : Prop where
  held : ∀ f, s.site.locked f = true ↔ f ∈ s.files
  apart : s.files.Nodup

/-- The pid file of every dispatcher that runs is in place and says its pid. -/
def Shown (s : Scene) : Prop :=
  ∀ l ∈ s.live, s.site.linked = some l.daemon.pidFile ∧
    s.site.content l.daemon.pidFile = pidLine l.pid

variable {s : Scene}

theorem Sound.of_locked (h : s.Sound) {site : PidSite} (same : site.locked = s.site.locked) :
    Sound ⟨site, s.live⟩ := by
  refine ⟨fun f => ?_, h.apart⟩
  change site.locked f = true ↔ f ∈ s.files
  rw [same]
  exact h.held f

theorem Sound.start (h : s.Sound) (c : DaemonSettings) (pid : Nat) (trials : StartupTrials) :
    (s.move (.start c pid trials)).Sound := by
  have ends := startup_ends c pid trials s.site
  unfold move
  dsimp only
  cases ended : startup c pid trials s.site with
  | mk result site' =>
    rw [ended] at ends
    cases ends with
    | early => exact h.of_locked (locked_clear _ _)
    | refused => exact h.of_locked (PidSite.locked_openFile _)
    | failed _ _ _ locked => exact h.of_locked locked
    | @started d _ free opened =>
      have new : d.pidFile ∉ s.files := by
        rw [← h.held, opened, free]
        exact Bool.false_ne_true
      refine ⟨fun f => ?_, List.nodup_cons.2 ⟨new, h.apart⟩⟩
      change _ ↔ f ∈ d.pidFile :: s.files
      rw [PidSite.locked_write, PidSite.locked_setLocked, PidSite.locked_openFile, List.mem_cons]
      by_cases hf : f = d.pidFile
      · simp [hf]
      · simp [hf, h.held]

theorem Sound.stop (h : s.Sound) (place : Nat) (removed : Bool) :
    (s.move (.stop place removed)).Sound := by
  unfold move
  dsimp only
  cases found : s.live[place]? with
  | none => exact h
  | some l =>
    obtain ⟨inside, rfl⟩ := List.getElem?_eq_some_iff.1 found
    let rest : Scene := ⟨s.live[place].daemon.shutdown removed s.site, s.live.eraseIdx place⟩
    have split : s.files.Perm (s.live[place].daemon.pidFile :: rest.files) :=
      (List.getElem_cons_eraseIdx_perm inside).symm.map _
    obtain ⟨gone, apart⟩ := List.nodup_cons.1 (split.nodup_iff.1 h.apart)
    refine ⟨fun f => ?_, apart⟩
    change (rest.site.locked f = true) ↔ f ∈ rest.files
    have before := (h.held f).trans split.mem_iff
    rw [List.mem_cons] at before
    unfold rest shutdown PidSite.unlock
    dsimp only
    rw [PidSite.locked_setLocked, locked_clear]
    by_cases hf : f = s.live[place].daemon.pidFile
    · rw [if_pos hf]
      exact ⟨fun h => absurd h Bool.false_ne_true, fun h => absurd (hf ▸ h) gone⟩
    · rw [if_neg hf, before]
      exact or_iff_right hf

theorem Sound.move (h : s.Sound) (m : Move) : (s.move m).Sound := by
  cases m with
  | start c pid trials => exact h.start c pid trials
  | stop place removed => exact h.stop place removed

/-- A pid file can be in place for one dispatcher only. -/
theorem Shown.length_le (h : s.Shown) (sound : s.Sound) : s.live.length ≤ 1 := by
  match hl : s.live with
  | [] => simp
  | [l] => simp
  | l :: k :: rest =>
    have hne : l.daemon.pidFile ≠ k.daemon.pidFile := by
      have apart := sound.apart
      unfold files at apart
      rw [hl] at apart
      simp only [List.map_cons, List.nodup_cons, List.mem_cons, not_or] at apart
      exact apart.1.1
    have first := (h l (by simp [hl])).1
    have second := (h k (by simp [hl])).1
    exact absurd (Option.some.inj (first.symm.trans second)) hne

/-- As long as the pid file of a running dispatcher is in place, its lock refuses all others. -/
theorem Shown.refuses (h : s.Shown) (sound : s.Sound) (live : s.live ≠ []) (c : DaemonSettings)
    (pid : Nat) {trials : StartupTrials} (reach : trials.ReachLock) :
    startup c pid trials s.site = (.error .lockFailed, s.site) := by
  obtain ⟨l, hl⟩ := List.exists_mem_of_ne_nil _ live
  have opens := PidSite.openFile_of_linked (h l hl).1
  have taken : s.site.locked s.site.openFile.1 = true := by
    rw [opens]
    exact (sound.held _).2 (List.mem_map_of_mem hl)
  have ends := startup_ends c pid trials s.site
  cases ended : startup c pid trials s.site with
  | mk result site' =>
    rw [ended] at ends
    cases ends with
    | early short => exact absurd reach short
    | refused => rw [opens]
    | failed _ free => rw [free] at taken; cases taken
    | started _ free => rw [free] at taken; cases taken

/-- What is done leaves a running dispatcher alone, unless a startup fails too early. -/
def Minds (s : Scene) : Move → Prop
  | .start _ _ trials => s.live ≠ [] → trials.ReachLock
  | .stop .. => True

theorem Shown.start (h : s.Shown) (sound : s.Sound) {c : DaemonSettings} {pid : Nat}
    {trials : StartupTrials} (minds : s.Minds (.start c pid trials)) :
    (s.move (.start c pid trials)).Shown := by
  by_cases live : s.live = []
  · have ends := startup_ends c pid trials s.site
    unfold Scene.move
    dsimp only
    cases ended : startup c pid trials s.site with
    | mk result site' =>
      rw [ended] at ends
      cases ends with
      | started _ _ opened =>
        intro l hl
        rw [live, List.mem_singleton] at hl
        subst hl
        refine ⟨?_, PidSite.content_write_self _ _ _⟩
        rw [PidSite.linked_write, PidSite.linked_setLocked, PidSite.linked_openFile, opened]
      | _ =>
        intro l hl
        rw [live] at hl
        cases hl
  · have refused := h.refuses sound live c pid (minds live)
    unfold Scene.move
    dsimp only
    rw [refused]
    exact h

theorem Shown.stop (h : s.Shown) (sound : s.Sound) (place : Nat) (removed : Bool) :
    (s.move (.stop place removed)).Shown := by
  unfold Scene.move
  dsimp only
  cases found : s.live[place]? with
  | none => exact h
  | some l =>
    obtain ⟨inside, -⟩ := List.getElem?_eq_some_iff.1 found
    have one := h.length_le sound
    have none : s.live.eraseIdx place = [] := by
      rw [← List.length_eq_zero_iff, List.length_eraseIdx_of_lt inside]
      omega
    intro k hk
    rw [none] at hk
    cases hk

/-- Every move of a sequence minds the dispatcher that runs when its turn comes. -/
def Minded (s : Scene) (moves : List Move) : Prop :=
  ∀ earlier m later, moves = earlier ++ m :: later → (s.run earlier).Minds m

theorem shown_run (sound : s.Sound) (shown : s.Shown) {moves : List Move}
    (minded : s.Minded moves) : (s.run moves).Sound ∧ (s.run moves).Shown := by
  induction moves generalizing s with
  | nil => exact ⟨sound, shown⟩
  | cons m rest ih =>
    have minds : s.Minds m := minded [] m rest rfl
    have after : (s.move m).Shown := by
      cases m with
      | start c pid trials => exact shown.start sound minds
      | stop place removed => exact shown.stop sound place removed
    refine ih (sound.move m) after fun earlier m' later hr => ?_
    exact minded (m :: earlier) m' later (congrArg (List.cons m) hr)

theorem sound_opening {site : PidSite} (idle : ∀ f, site.locked f = false) :
    (opening site).Sound := by
  refine ⟨fun f => ?_, .nil⟩
  change site.locked f = true ↔ f ∈ []
  rw [idle]
  simp

theorem shown_opening (site : PidSite) : (opening site).Shown := by
  intro l hl
  cases hl

end Scene

/--
Dispatchers that are started and stopped in any order, with any pid file to begin with that nobody
has locked. As long as no startup fails before it tries the lock while a dispatcher runs, at most
one runs at a time; its pid file is in place, locked, and says its pid; and a startup that comes as
far as the lock fails and leaves everything as it is.
-/
theorem one_dispatcher_at_a_time {site : PidSite} (idle : ∀ f, site.locked f = false)
    {moves : List Move} (minded : (Scene.opening site).Minded moves) :
    let s := (Scene.opening site).run moves
    s.live.length ≤ 1 ∧
    (∀ l ∈ s.live, s.site.linked = some l.daemon.pidFile ∧ s.site.read? = some (pidLine l.pid)) ∧
    (∀ f, s.site.locked f = true ↔ ∃ l ∈ s.live, l.daemon.pidFile = f) ∧
    (s.live ≠ [] → ∀ c pid (trials : StartupTrials), trials.ReachLock →
      startup c pid trials s.site = (.error .lockFailed, s.site)) := by
  intro s
  have opened := Scene.sound_opening idle
  obtain ⟨sound, shown⟩ := Scene.shown_run opened (Scene.shown_opening site) minded
  refine ⟨shown.length_le sound, fun l hl => ?_, fun f => ?_, ?_⟩
  · obtain ⟨linked, content⟩ := shown l hl
    refine ⟨linked, ?_⟩
    unfold PidSite.read?
    rw [linked]
    exact congrArg some content
  · exact (sound.held f).trans List.mem_map
  · intro live c pid trials reach
    exact shown.refuses sound live c pid reach

def smooth : StartupTrials := ⟨.ok (), .ok (), .ok (), .ok (), .ok default, .ok (), true⟩

/-- The startup of one who may not write to the pid file, but may remove it. -/
def denied : StartupTrials :=
  { smooth with openPidFile := .error "Permission denied (os error 13)" }

def usual : DaemonSettings := .below ∅ "/var/lib/conveyor"

/-- A second dispatcher is refused by the first; once that has stopped, a third starts. -/
theorem one_dispatcher_at_a_time_in_turn :
    let moves : List Move := [.start usual 1 smooth, .start usual 2 smooth, .stop 0 true,
      .start usual 3 smooth]
    let s := (Scene.opening .empty).run moves
    s.live.map (·.pid) = [3] ∧ s.live.length ≤ 1 := by
  intro moves s
  have reach : smooth.ReachLock := ⟨rfl, rfl⟩
  have minded : (Scene.opening .empty).Minded moves := by
    intro earlier m later hm
    have mem : m ∈ moves := by
      rw [hm]
      simp
    simp only [moves, List.mem_cons, List.not_mem_nil, or_false] at mem
    rcases mem with rfl | rfl | rfl | rfl
    case inr.inr.inl => trivial
    all_goals exact fun _ => reach
  exact ⟨rfl, (one_dispatcher_at_a_time (fun _ => rfl) minded).1⟩

/--
A startup that cannot open the pid file of a running dispatcher takes it away. The next one makes a
new file, of which nobody has the lock, so that two dispatchers run.
-/
theorem second_dispatcher_after_early_failure :
    let first := (Scene.opening .empty).run [.start usual 1 smooth]
    let second := first.move (.start usual 2 denied)
    let third := second.move (.start usual 3 smooth)
    first.live.map (·.pid) = [1] ∧ first.site.read? = some (pidLine 1) ∧
    (startup usual 2 denied first.site).1 =
      .error (.inputOutput "Permission denied (os error 13)") ∧
    second.live.map (·.pid) = [1] ∧ second.site.read? = none ∧
    third.live.map (·.pid) = [3, 1] ∧ third.site.read? = some (pidLine 3) :=
  ⟨rfl, rfl, rfl, rfl, rfl, rfl, rfl⟩

end Daemon

end BuildDispatch
