import BuildDispatch.Proofs.Supervisor.Wait

/-!
How often a supervisor calls for its payload, and what comes of it when nothing breaks it off. A
call is repeated while its answer lets it pass and an attempt is left (`Tried`). The two loops of
calls and what is done besides make up a course (`Course`), which tells the result
(`ensurePayload_attempts`).
-/
namespace BuildDispatch.Supervisor

open Program (Ends Rule Run Trace)

variable {σ α β : Type}

/-! What a part of supervision does, and what it yields. -/

/-- What every run of a part of supervision does and yields. -/
def Yields (rule : Rule Action σ) (post : Trace Action → Except Ending α → Prop)
    (x : Supervision α) : Prop :=
  ∀ s, Ends rule (fun trace r _ => post trace r) x.run s

theorem pause_eq {reason : Pause} {time total : Duration} {times : Nat}
    (told : time.times? times = some total) :
    pause reason time times = await (.sleep reason total) := by
  unfold pause
  rw [told]

/-- No action is broken off by a shutdown. -/
def Unbroken (c : SupervisorSettings) (rule : Rule Action σ) : Prop :=
  ∀ (β : Type) s (x : Action β) b t, rule β s x b t → cut? c ⟨β, x, b⟩ ≠ some .shutDown

namespace Yields

variable {c : SupervisorSettings} {rule : Rule Action σ}
  {post post' : Trace Action → Except Ending α → Prop} {x : Supervision α}

theorem mono (h : Yields rule post x) (values : ∀ trace r, post trace r → post' trace r) :
    Yields rule post' x :=
  fun s => (h s).mono fun trace r _ => values trace r

theorem pure {a : α} (h : post [] (.ok a)) : Yields rule post (Pure.pure a) := fun _ => .done h

theorem fail {e : SupervisorError} (h : post [] (.error (.failed e))) :
    Yields rule post (fail e : Supervision α) := fun _ => .done h

theorem bind {post : Trace Action → Except Ending β → Prop} {f : α → Supervision β}
    (h : Yields rule (fun first r => match r with
      | .ok a => Yields rule (fun second r => post (first ++ second) r) (f a)
      | .error e => post first (.error e)) x) : Yields rule post (x >>= f) := by
  refine fun s => Ends.bind ((h s).mono fun first r t hr => ?_)
  cases r with
  | ok a => exact hr t
  | error e =>
    refine Ends.done ?_
    rwa [List.append_nil]

theorem await (unbroken : Unbroken c rule) {x : Action (Option α)}
    (breaks : cut? c ⟨_, x, none⟩ = some .shutDown) (h : ∀ a, post [⟨_, x, some a⟩] (.ok a)) :
    Yields rule post (await x) := by
  intro s trace r t run
  obtain ⟨answer, u, rest, rfl, step, after⟩ := Program.run_act_iff.1 run
  cases answer with
  | none => exact absurd breaks (unbroken _ s x none u step)
  | some a =>
    obtain ⟨rfl, rfl, rfl⟩ := Program.run_done_iff.1 after
    exact h a

section

variable (unbroken : Unbroken c rule) {post : Trace Action → Except Ending β → Prop}
include unbroken

theorem await_bind {x : Action (Option α)} {f : α → Supervision β}
    (breaks : cut? c ⟨_, x, none⟩ = some .shutDown)
    (h : ∀ a, Yields rule (fun trace r => post (⟨_, x, some a⟩ :: trace) r) (f a)) :
    Yields rule post (Supervisor.await x >>= f) :=
  bind (await unbroken breaks h)

theorem pause_bind {reason : Pause} {time total : Duration} {times : Nat} {x : Supervision β}
    (told : time.times? times = some total)
    (h : Yields rule (fun trace r => post (⟨_, .sleep reason total, some ()⟩ :: trace) r) x) :
    Yields rule post (pause reason time times >>= fun _ => x) := by
  rw [pause_eq told]
  exact await_bind unbroken rfl fun _ => h

end

end Yields

/-! A call that is repeated. -/

/-- Whether another attempt may follow on an answer: trouble may pass, what is unfit may get fit. -/
def passes (fit : α → Bool) : Except CallError α → Bool
  | .ok a => !fit a
  | .error e => e.isTransient

/--
A call that is repeated until its last answer, after `made` other attempts. Between an attempt and
the next there is the wait that is due, as many times the backoff as attempts were made.
-/
inductive Calls (c : SupervisorSettings) (x : Action (Option α)) :
    (made : Nat) → (failed : List α) → (last : α) → Trace Action → Prop
  | once {made : Nat} {last : α} : Calls c x made [] last [⟨_, x, some last⟩]
  | again {made : Nat} {a last : α} {failed : List α} {time : Duration} {trace : Trace Action}
      (due : c.downloadBackoff.times? (made + 1) = some time)
      (rest : Calls c x (made + 1) failed last trace) :
      Calls c x made (a :: failed) last
        (⟨_, x, some a⟩ :: ⟨_, .sleep .download time, some ()⟩ :: trace)

/-- A call is tried, after `made` other attempts, with `left` more. -/
structure Tried (c : SupervisorSettings) (x : Action (Option (Except CallError α)))
    (fit : α → Bool) (made left : Nat) (failed : List (Except CallError α))
    (last : Except CallError α) (trace : Trace Action) : Prop where
  calls : Calls c x made failed last trace
  /-- An answer that decides is the last. -/
  passed : ∀ a ∈ failed, passes fit a = true
  most : failed.length < left
  /-- One that does not decide is the last just if no attempt is left. -/
  spent : passes fit last = true → failed.length + 1 = left

namespace Tried

variable {c : SupervisorSettings} {x : Action (Option (Except CallError α))} {fit : α → Bool}
  {made left : Nat} {failed : List (Except CallError α)} {a last : Except CallError α}
  {time : Duration} {trace : Trace Action}

theorem once (spent : passes fit last = true → left = 0) :
    Tried c x fit made (left + 1) [] last [⟨_, x, some last⟩] where
  calls := .once
  passed := nofun
  most := left.succ_pos
  spent passing := by rw [spent passing, List.length_nil]

theorem again (passing : passes fit a = true)
    (due : c.downloadBackoff.times? (made + 1) = some time)
    (rest : Tried c x fit (made + 1) left failed last trace) :
    Tried c x fit made (left + 1) (a :: failed) last
      (⟨_, x, some a⟩ :: ⟨_, .sleep .download time, some ()⟩ :: trace) where
  calls := .again due rest.calls
  passed := List.forall_mem_cons.2 ⟨passing, rest.passed⟩
  most := Nat.succ_lt_succ rest.most
  spent passing := congrArg Nat.succ (rest.spent passing)

end Tried

/-- Fewer times a span of time can be told as well. -/
theorem exists_times? {time : Duration} {most : Nat} (told : (time.times? most).isSome = true)
    (times : Nat) (le : times ≤ most) : ∃ total, time.times? times = some total := by
  have fewer : time.nanos * times ≤ time.nanos * most := Nat.mul_le_mul_left _ le
  rcases Nat.lt_or_ge (time.nanos * most) durationLimit with limited | beyond
  · exact ⟨_, dif_pos (Nat.lt_of_le_of_lt fewer limited)⟩
  · rw [Duration.times?, dif_neg (Nat.not_lt.2 beyond)] at told
    cases told

/-! The courses. -/

/-- How a look at the payload in place is taken, and whether it is the one described. -/
inductive Looks (c : SupervisorSettings) (m : Manifest) : Bool → Trace Action → Prop
  | length {length : Option UInt64} (other : length ≠ some m.length) :
    Looks c m false [⟨_, .fileLength c.payloadPath, some length⟩]
  | content (content : Option Bytes) :
    Looks c m (content.any m.verifies) [⟨_, .fileLength c.payloadPath, some (some m.length)⟩,
      ⟨_, .read c.payloadPath, some content⟩]

abbrev InstallAction : Type 1 := Action (Option (Except String Unit))

def steps (c : SupervisorSettings) (payload : Bytes) : List InstallAction :=
  (Path.parent? c.payloadPath).toList.map .makeDirectory ++ [.write c.partialPath payload,
    .makeExecutable c.partialPath, .rename c.partialPath c.payloadPath]

/-- Steps that are done one by one, up to the first that fails, and why it does. -/
inductive Taken : List InstallAction → Trace Action → Option String → Prop
  | all : Taken [] [] none
  | failed {x : InstallAction} {later : List InstallAction} (reason : String) :
      Taken (x :: later) [⟨_, x, some (.error reason)⟩] (some reason)
  | next {x : InstallAction} {later : List InstallAction} {trace : Trace Action}
      {failure : Option String} (rest : Taken later trace failure) :
      Taken (x :: later) (⟨_, x, some (.ok ())⟩ :: trace) failure

/-- What is yielded once an installation is over. -/
def afterInstalling (c : SupervisorSettings) (a : α) : (failure : Option String) → Except Ending α
  | none => .ok a
  | some reason => .error (.failed (.install c.payloadPath reason))

/-- Whether a download is what the manifest that came with it describes. -/
def fits : Manifest × Bytes → Bool := fun (m, payload) => m.verifies payload

/-- What is done after the last of some attempts to download, and what is yielded then. -/
inductive Outcome (c : SupervisorSettings) (attempts : Nat) :
    Except CallError (Manifest × Bytes) → Trace Action → Except Ending Manifest → Prop
  | unreachable (e : CallError) :
    Outcome c attempts (.error e) [] (.error (.failed (.download attempts e)))
  | corrupt {m : Manifest} {payload : Bytes} (unfit : m.verifies payload = false) :
    Outcome c attempts (.ok (m, payload)) [] (.error (.failed (.corrupt attempts m.checksum)))
  | verified {m : Manifest} {payload : Bytes} {trace : Trace Action} {failure : Option String}
      (fit : m.verifies payload = true) (taken : Taken (steps c payload) trace failure) :
      Outcome c attempts (.ok (m, payload)) trace (afterInstalling c m failure)

/--
The ways in which a supervisor comes by its payload or fails to, with the answers to the calls for
the manifest and to those for the payload.
-/
inductive Course (c : SupervisorSettings) : List (Except CallError Manifest) →
    List (Except CallError (Manifest × Bytes)) → Trace Action →
    Except Ending InstalledPayload → Prop
  | unknown {refused : List (Except CallError Manifest)} {e : CallError} {asks : Trace Action}
      (tried : Tried c .manifest (fun _ => true) 0 c.attempts refused (.error e) asks) :
      Course c (refused ++ [.error e]) [] asks
        (.error (.failed (.download (refused.length + 1) e)))
  | current {refused : List (Except CallError Manifest)} {m : Manifest} {asks looks : Trace Action}
      (tried : Tried c .manifest (fun _ => true) 0 c.attempts refused (.ok m) asks)
      (there : Looks c m true looks) :
      Course c (refused ++ [.ok m]) [] (asks ++ looks) (.ok ⟨c.payloadPath, m⟩)
  | fetched {refused : List (Except CallError Manifest)} {m : Manifest}
      {failed : List (Except CallError (Manifest × Bytes))}
      {last : Except CallError (Manifest × Bytes)} {asks looks fetches rest : Trace Action}
      {r : Except Ending Manifest}
      (tried : Tried c .manifest (fun _ => true) 0 c.attempts refused (.ok m) asks)
      (missing : Looks c m false looks)
      (downloaded : Tried c .fetch fits 0 c.attempts failed last fetches)
      (outcome : Outcome c (failed.length + 1) last rest r) :
      Course c (refused ++ [.ok m]) (failed ++ [last]) (asks ++ (looks ++ (fetches ++ rest)))
        (r.map fun m => ⟨c.payloadPath, m⟩)

/-! What a course tells. -/

def asked? : (Σ β : Type, Action β × β) → Option (Except CallError Manifest)
  | ⟨_, .manifest, answer⟩ => answer
  | _ => none

def fetched? : (Σ β : Type, Action β × β) → Option (Except CallError (Manifest × Bytes))
  | ⟨_, .fetch, answer⟩ => answer
  | _ => none

theorem Calls.filterMap {c : SupervisorSettings} {x : Action (Option α)} {made : Nat}
    {failed : List α} {last : α} {trace : Trace Action} (h : Calls c x made failed last trace)
    {f : (Σ β : Type, Action β × β) → Option β}
    (waits : ∀ time, f ⟨_, .sleep .download time, some ()⟩ = none) :
    trace.filterMap f = (failed ++ [last]).filterMap fun a => f ⟨_, x, some a⟩ := by
  induction h with
  | once => rfl
  | again _ _ ih =>
    rw [List.cons_append, List.filterMap_cons, List.filterMap_cons, List.filterMap_cons,
      waits, ih]

theorem Taken.filterMap {xs : List InstallAction} {trace : Trace Action}
    {failure : Option String} (h : Taken xs trace failure)
    {f : (Σ β : Type, Action β × β) → Option β} (aside : ∀ x ∈ xs, ∀ a, f ⟨_, x, a⟩ = none) :
    trace.filterMap f = [] := by
  induction h with
  | all => rfl
  | failed reason => simp [aside]
  | next _ ih =>
    rw [List.filterMap_cons, aside _ (.head _)]
    exact ih fun x hx => aside x (.tail _ hx)

/-- Nothing is called for once the calls are over. -/
theorem Outcome.filterMap {c : SupervisorSettings} {attempts : Nat}
    {last : Except CallError (Manifest × Bytes)} {rest : Trace Action} {r : Except Ending Manifest}
    (h : Outcome c attempts last rest r) :
    rest.filterMap asked? = [] ∧ rest.filterMap fetched? = [] := by
  cases h with
  | unreachable | corrupt => exact ⟨rfl, rfl⟩
  | @verified m payload _ _ _ taken =>
    have aside : ∀ x ∈ steps c payload, ∀ a,
        asked? ⟨_, x, a⟩ = none ∧ fetched? ⟨_, x, a⟩ = none := by
      intro x hx a
      simp only [steps, List.mem_append, List.mem_map, List.mem_cons, List.not_mem_nil,
        or_false] at hx
      obtain ⟨directory, -, rfl⟩ | rfl | rfl | rfl := hx <;> exact ⟨rfl, rfl⟩
    exact ⟨taken.filterMap fun x hx a => (aside x hx a).1,
      taken.filterMap fun x hx a => (aside x hx a).2⟩

namespace Course

variable {c : SupervisorSettings} {asked : List (Except CallError Manifest)}
  {fetched : List (Except CallError (Manifest × Bytes))} {trace : Trace Action}
  {r : Except Ending InstalledPayload}

/-- The answers of a course are those in its trace. -/
theorem filterMap (h : Course c asked fetched trace r) :
    trace.filterMap asked? = asked ∧ trace.filterMap fetched? = fetched := by
  have asks {refused last trace}
      (calls : Calls c .manifest 0 refused last trace) :
      trace.filterMap asked? = refused ++ [last] ∧ trace.filterMap fetched? = [] :=
    ⟨(calls.filterMap fun _ => rfl).trans List.filterMap_some,
      (calls.filterMap fun _ => rfl).trans (by simp [fetched?])⟩
  have looks {m there trace} (looked : Looks c m there trace) :
      trace.filterMap asked? = [] ∧ trace.filterMap fetched? = [] := by
    cases looked <;> exact ⟨rfl, rfl⟩
  have fetches {failed last trace} (calls : Calls c .fetch 0 failed last trace) :
      trace.filterMap asked? = [] ∧ trace.filterMap fetched? = failed ++ [last] :=
    ⟨(calls.filterMap fun _ => rfl).trans (by simp [asked?]),
      (calls.filterMap fun _ => rfl).trans List.filterMap_some⟩
  cases h with
  | unknown tried => exact asks tried.calls
  | current tried looked =>
    simp [asks tried.calls, looks looked]
  | fetched tried looked downloaded outcome =>
    simp [asks tried.calls, looks looked, fetches downloaded.calls, outcome.filterMap]

theorem bounds (h : Course c asked fetched trace r) :
    1 ≤ asked.length ∧ asked.length ≤ c.attempts ∧ fetched.length ≤ c.attempts := by
  cases h with
  | unknown tried | current tried =>
    have most := tried.most
    simp
    omega
  | fetched tried _ downloaded =>
    have most := tried.most
    have most' := downloaded.most
    simp
    omega

theorem corrupt_iff (h : Course c asked fetched trace r) {attempts : Nat} {expected : String} :
    r = .error (.failed (.corrupt attempts expected)) ↔
      attempts = c.attempts ∧ fetched.length = c.attempts ∧ (∀ a ∈ fetched, passes fits a = true) ∧
      ∃ m payload, fetched.getLast? = some (.ok (m, payload)) ∧ expected = m.checksum := by
  constructor
  · rintro rfl
    generalize failing : Except.error (Ending.failed (.corrupt attempts expected)) = r at h
    cases h with
    | unknown => cases failing
    | current => cases failing
    | @fetched _ _ failed _ _ _ _ _ _ _ _ downloaded outcome =>
      cases outcome with
      | unreachable => cases failing
      | @corrupt m payload unfit =>
        obtain ⟨rfl, rfl⟩ : attempts = failed.length + 1 ∧ expected = m.checksum := by
          simpa [Except.map] using failing
        have passing : passes fits (.ok (m, payload)) = true := by simp [passes, fits, unfit]
        have spent := downloaded.spent passing
        refine ⟨spent, by simpa using spent, fun a ha => ?_, m, payload, by simp, rfl⟩
        rcases List.mem_append.1 ha with before | last
        · exact downloaded.passed a before
        · obtain rfl := List.mem_singleton.1 last
          exact passing
      | @verified _ _ _ failure _ taken => cases failure <;> cases failing
  · rintro ⟨rfl, spent, passed, m, payload, last, rfl⟩
    cases h with
    | unknown | current => cases last
    | @fetched _ _ failed _ _ _ _ _ _ _ _ downloaded outcome =>
      obtain rfl := Option.some.inj (List.getLast?_concat.symm.trans last)
      rw [List.length_append, List.length_singleton] at spent
      have passing := passed _ (List.mem_append_right failed (.head _))
      cases outcome with
      | corrupt =>
        rw [← spent]
        rfl
      | verified fit => simp [passes, fits, fit] at passing

end Course

/-! Each part of supervision takes its part of the course. -/

abbrev Takes (rule : Rule Action σ) (c : SupervisorSettings)
    (steps : List InstallAction) : Supervision Unit → Prop :=
  Yields rule fun trace r => ∃ failure, Taken steps trace failure ∧ r = afterInstalling c () failure

/-- Attempts to download, after `made` others and with `left` more, and what comes of them. -/
abbrev Downloads (c : SupervisorSettings) (made left : Nat) (trace : Trace Action)
    (r : Except Ending Manifest) : Prop :=
  ∃ failed last fetches rest, trace = fetches ++ rest ∧
    Tried c .fetch fits made left failed last fetches ∧
    Outcome c (made + (failed.length + 1)) last rest r

section

variable {rule : Rule Action σ} {c : SupervisorSettings} (unbroken : Unbroken c rule)
include unbroken

theorem obtainManifest_yields (made left : Nat)
    (told : (c.downloadBackoff.times? (made + (left + 1))).isSome = true) :
    Yields rule (fun trace r => ∃ failed last,
      Tried c .manifest (fun _ => true) made (left + 1) failed last trace ∧
      r = last.mapError fun e => .failed (.download (made + (failed.length + 1)) e))
      (obtainManifest c made left) := by
  induction left generalizing made with
  | zero =>
    refine .await_bind unbroken rfl fun answer => ?_
    cases answer with
    | ok m => exact .pure ⟨[], .ok m, .once nofun, rfl⟩
    | error e => exact .fail ⟨[], .error e, .once fun _ => rfl, rfl⟩
  | succ left ih =>
    refine .await_bind unbroken rfl fun answer => ?_
    cases answer with
    | ok m => exact .pure ⟨[], .ok m, .once nofun, rfl⟩
    | error e =>
      dsimp only
      cases passing : e.isTransient with
      | false =>
        refine .bind (.fail ⟨[], .error e, .once fun passes => ?_, rfl⟩)
        exact absurd (passing.symm.trans passes) nofun
      | true =>
        obtain ⟨time, due⟩ := exists_times? told (made + 1) (by omega)
        refine .pause_bind unbroken due ?_
        rw [show made + (left + 1 + 1) = made + 1 + (left + 1) by omega] at told
        refine (ih (made + 1) told).mono ?_
        rintro trace r ⟨failed, last, tried, rfl⟩
        refine ⟨.error e :: failed, last, tried.again passing due, ?_⟩
        rw [List.length_cons, Nat.add_assoc, Nat.add_comm 1]

theorem isInstalled_yields (m : Manifest) :
    Yields rule (fun trace r => ∃ there, Looks c m there trace ∧ r = .ok there)
      (isInstalled c m) := by
  refine .await_bind unbroken rfl fun length => ?_
  by_cases same : length = some m.length
  · rw [if_neg fun differs => differs same, same]
    refine .await_bind unbroken rfl fun content => ?_
    cases content with
    | none => exact .pure ⟨false, .content none, rfl⟩
    | some payload => exact .pure ⟨m.verifies payload, .content (some payload), rfl⟩
  · rw [if_pos same]
    exact .pure ⟨false, .length same, rfl⟩

theorem installStep_takes {x : InstallAction}
    (breaks : cut? c ⟨_, x, none⟩ = some .shutDown) : Takes rule c [x] (installStep c x) := by
  refine .await_bind unbroken breaks fun answer => ?_
  cases answer with
  | ok => exact .pure ⟨none, .next .all, rfl⟩
  | error reason => exact .fail ⟨some reason, .failed reason, rfl⟩

theorem installStep_bind_takes {x : InstallAction} {later : List InstallAction}
    {rest : Supervision Unit} (breaks : cut? c ⟨_, x, none⟩ = some .shutDown)
    (h : Takes rule c later rest) :
    Takes rule c (x :: later) (installStep c x >>= fun _ => rest) := by
  refine .bind ((installStep_takes unbroken breaks).mono ?_)
  rintro first r ⟨failure, taken, rfl⟩
  cases taken with
  | failed reason => exact ⟨some reason, .failed reason, rfl⟩
  | next none =>
    cases none
    refine h.mono ?_
    rintro trace r ⟨failure, taken, rfl⟩
    exact ⟨failure, .next taken, rfl⟩

theorem install_takes (payload : Bytes) :
    Takes rule c (steps c payload) (install c payload) := by
  have renames : Takes rule c [.rename c.partialPath c.payloadPath] _ :=
    installStep_takes unbroken rfl
  have allows : Takes rule c (.makeExecutable c.partialPath :: _) _ :=
    installStep_bind_takes unbroken rfl renames
  have writes : Takes rule c (.write c.partialPath payload :: _) _ :=
    installStep_bind_takes unbroken rfl allows
  unfold install steps
  cases Path.parent? c.payloadPath with
  | none => exact writes
  | some directory => exact installStep_bind_takes unbroken rfl writes

theorem fetchOnce_yields {made : Nat} {post : Trace Action → Except Ending Fetched → Prop}
    (installed : ∀ m payload trace failure, m.verifies payload = true →
      Taken (steps c payload) trace failure →
      post (⟨_, .fetch, some (.ok (m, payload))⟩ :: trace)
        (afterInstalling c (.installed m) failure))
    (corrupt : ∀ m payload, m.verifies payload = false →
      post [⟨_, .fetch, some (.ok (m, payload))⟩] (.ok (.corrupt m.checksum)))
    (failed : ∀ e, e.isTransient = true → post [⟨_, .fetch, some (.error e)⟩] (.ok (.failed e)))
    (refused : ∀ e, e.isTransient = false →
      post [⟨_, .fetch, some (.error e)⟩] (.error (.failed (.download (made + 1) e)))) :
    Yields rule post (fetchOnce c made) := by
  refine .await_bind unbroken rfl fun answer => ?_
  rcases answer with e | ⟨m, payload⟩
  · dsimp only
    cases passing : e.isTransient with
    | false => exact .bind (.fail (refused e passing))
    | true => exact .pure (failed e passing)
  · dsimp only
    cases fit : m.verifies payload with
    | false => exact .pure (corrupt m payload fit)
    | true =>
      refine .bind ((install_takes unbroken payload).mono ?_)
      rintro trace r ⟨_ | reason, taken, rfl⟩
      · refine .pure ?_
        rw [List.append_nil]
        exact installed m payload trace none fit taken
      · exact installed m payload trace (some reason) fit taken

theorem download_yields (corrupt : Option String) (made : Nat) {left : Nat} (pos : 0 < left)
    (told : (c.downloadBackoff.times? (made + left)).isSome = true) :
    Yields rule (Downloads c made left) (download c corrupt made left) := by
  induction left generalizing corrupt made with
  | zero => cases pos
  | succ left ih =>
    -- An answer that passes puts its attempt and the wait before the rest of the loop.
    have next (answer : Except CallError (Manifest × Bytes)) (passing : passes fits answer = true)
        (corrupt : Option String) (more : 0 < left) :
        Yields rule (fun trace => Downloads c made (left + 1) (⟨_, .fetch, some answer⟩ :: trace))
          (pause .download c.downloadBackoff (made + 1) >>= fun _ =>
            download c corrupt (made + 1) left) := by
      obtain ⟨time, due⟩ := exists_times? told (made + 1) (by omega)
      refine .pause_bind unbroken due ?_
      rw [show made + (left + 1) = made + 1 + left by omega] at told
      refine (ih corrupt (made + 1) more told).mono ?_
      rintro trace r ⟨failed, last, fetches, rest, rfl, tried, outcome⟩
      refine ⟨answer :: failed, last, _, rest, rfl, tried.again passing due, ?_⟩
      rwa [List.length_cons, Nat.add_comm _ 1, ← Nat.add_assoc]
    refine .bind (fetchOnce_yields unbroken ?installed ?corrupt ?failed ?refused)
    case installed =>
      intro m payload trace failure fit taken
      have decided : passes fits (.ok (m, payload)) = true → left = 0 := by
        simp [passes, fits, fit]
      cases failure with
      | none =>
        refine .pure ⟨[], .ok (m, payload), _, trace, ?_, .once decided, .verified fit taken⟩
        exact List.append_nil _
      | some reason =>
        exact ⟨[], .ok (m, payload), _, trace, rfl, .once decided, .verified fit taken⟩
    case corrupt =>
      intro m payload unfit
      rcases Nat.eq_zero_or_pos left with rfl | more
      · exact .fail ⟨[], .ok (m, payload), _, [], rfl, .once fun _ => rfl, .corrupt unfit⟩
      · dsimp only
        rw [if_pos (Nat.ne_of_gt more)]
        exact next _ (by simp [passes, fits, unfit]) _ more
    case failed =>
      intro e passing
      rcases Nat.eq_zero_or_pos left with rfl | more
      · exact .bind (.fail ⟨[], .error e, _, [], rfl, .once fun _ => rfl, .unreachable e⟩)
      · dsimp only
        rw [if_neg (Nat.ne_of_gt more)]
        exact next (.error e) passing corrupt more
    case refused =>
      intro e refusing
      refine ⟨[], .error e, _, [], rfl, .once fun passing => ?_, .unreachable e⟩
      exact absurd (refusing.symm.trans passing) nofun

theorem ensurePayload_yields (told : (c.downloadBackoff.times? c.attempts).isSome = true) :
    Yields rule (fun trace r => ∃ asked fetched, Course c asked fetched trace r)
      (ensurePayload c) := by
  obtain ⟨left, attempts⟩ := Nat.exists_eq_add_one.2 c.attempts_pos
  have asks := obtainManifest_yields unbroken (c := c) 0 left (by rwa [Nat.zero_add, ← attempts])
  rw [← attempts, show left = c.attempts - 1 by omega] at asks
  refine .bind (asks.mono ?_)
  rintro asks r ⟨refused, e | m, tried, rfl⟩
  · rw [Nat.zero_add]
    exact ⟨_, _, .unknown tried⟩
  refine .bind ((isInstalled_yields unbroken m).mono ?_)
  rintro looks r ⟨_ | _, looked, rfl⟩
  · refine .bind ((download_yields unbroken none 0 c.attempts_pos ?_).mono ?_)
    · rwa [Nat.zero_add]
    · rintro _ r ⟨failed, last, fetches, rest, rfl, fetched, outcome⟩
      rw [Nat.zero_add] at outcome
      have course := Course.fetched tried looked fetched outcome
      cases r with
      | ok m =>
        rw [← (fetches ++ rest).append_nil] at course
        exact .pure ⟨_, _, course⟩
      | error e => exact ⟨_, _, course⟩
  · have course := Course.current tried looked
    rw [← looks.append_nil] at course
    exact .pure ⟨_, _, course⟩

end

/--
A supervisor obtains its payload while nothing breaks it off, where the backoff can be told as many
times as attempts may be made. It comes to an end. The answers to its calls make a course, which
tells the waits and the result. The manifest is asked for at least once, and neither call is made
more often than attempts may be. It ends with corrupt downloads just if every attempt was made, none
was verified or refused, and the last was corrupt; the checksum is then the one of that download.
-/
theorem ensurePayload_attempts {rule : Rule Action σ} {c : SupervisorSettings}
    (answers : ∀ (β : Type) s (x : Action β), ∃ b t, rule β s x b t) (unbroken : Unbroken c rule)
    (told : (c.downloadBackoff.times? c.attempts).isSome = true) (s : σ) :
    (∃ trace r t, Run rule s (ensurePayload c).run trace r t) ∧
    ∀ trace r t, Run rule s (ensurePayload c).run trace r t →
      let asked := trace.filterMap asked?
      let fetched := trace.filterMap fetched?
      Course c asked fetched trace r ∧
      (1 ≤ asked.length ∧ asked.length ≤ c.attempts ∧ fetched.length ≤ c.attempts) ∧
      ∀ attempts expected, r = .error (.failed (.corrupt attempts expected)) ↔
        attempts = c.attempts ∧ fetched.length = c.attempts ∧
        (∀ a ∈ fetched, passes fits a = true) ∧
        ∃ m payload, fetched.getLast? = some (.ok (m, payload)) ∧ expected = m.checksum := by
  refine ⟨Program.exists_run answers _ s, fun trace r t run => ?_⟩
  obtain ⟨asked, fetched, course⟩ := ensurePayload_yields unbroken told s trace r t run
  obtain ⟨rfl, rfl⟩ := course.filterMap
  exact ⟨course, course.bounds, fun _ _ => course.corrupt_iff⟩

/-- A part of supervision is run to its value, and then what follows. -/
theorem run_next {rule : Rule Action σ} {s t u : σ} {x : Supervision α} {f : α → Supervision β}
    {first second : Trace Action} {a : α} {r : Except Ending β}
    (run : Run rule s x.run first (.ok a) t) (rest : Run rule t (f a).run second r u) :
    Run rule s (x >>= f).run (first ++ second) r u :=
  Program.run_bind_iff.2 ⟨first, second, .ok a, t, rfl, run, rest⟩

/--
What is answered where the dispatcher is not reached at first, and every download then comes without
the byte that is published.
-/
def truncated (reached : Bool) : {β : Type} → Action β → β
  | _, .acquire | _, .isOwner => true
  | _, .release => ()
  | _, .manifest => some (if reached then .ok ⟨"v1", "5e", 1⟩ else .error (.transport .timedOut))
  | _, .fetch => some (.ok (⟨"v1", "5e", 1⟩, []))
  | _, .fileLength _ | _, .read _ => some none
  | _, .makeDirectory _ | _, .write .. | _, .makeExecutable _ | _, .rename .. => some (.ok ())
  | _, .sleep .. => some ()
  | _, .launch _ => .exited .signal (.ofSecs 0)

/-- The second call for the manifest is answered, and the third download is the last attempt. -/
theorem ensurePayload_attempts_truncated :
    let c : SupervisorSettings := ⟨"lock", "payload", 5, .ofSecs 2, .ofSecs 600, 3, .ofSecs 3⟩
    let rule : Rule Action Bool := fun _ reached x b later => b = truncated reached x ∧ later = true
    let trace : Trace Action := [⟨_, .manifest, some (.error (.transport .timedOut))⟩,
      ⟨_, .sleep .download (.ofSecs 3), some ()⟩, ⟨_, .manifest, some (.ok ⟨"v1", "5e", 1⟩)⟩,
      ⟨_, .fileLength "payload", some none⟩, ⟨_, .fetch, some (.ok (⟨"v1", "5e", 1⟩, []))⟩,
      ⟨_, .sleep .download (.ofSecs 3), some ()⟩, ⟨_, .fetch, some (.ok (⟨"v1", "5e", 1⟩, []))⟩,
      ⟨_, .sleep .download (.ofSecs 6), some ()⟩, ⟨_, .fetch, some (.ok (⟨"v1", "5e", 1⟩, []))⟩]
    Run rule false (ensurePayload c).run trace (.error (.failed (.corrupt 3 "5e"))) true ∧
      (trace.filterMap asked?).length ≤ c.attempts ∧
      (trace.filterMap fetched?).length = c.attempts := by
  intro c rule trace
  have answered {β : Type} (reached : Bool) (x : Action β) :
      rule β reached x (truncated reached x) true := ⟨rfl, rfl⟩
  have corrupt (made : Nat) : Run rule true (fetchOnce c made).run
      [⟨_, .fetch, some (.ok (⟨"v1", "5e", 1⟩, []))⟩] (.ok (.corrupt "5e")) true :=
    .act (answered true .fetch) .done
  have waits {reached : Bool} {times : Nat} {time : Duration}
      (told : c.downloadBackoff.times? times = some time) :
      Run rule reached (pause .download c.downloadBackoff times).run
        [⟨_, .sleep .download time, some ()⟩] (.ok ()) true := by
    rw [pause_eq told]
    exact .act ⟨rfl, rfl⟩ .done
  have third : Run rule true (download c (some "5e") 2 1).run (trace.drop 8)
      (.error (.failed (.corrupt 3 "5e"))) true := run_next (corrupt 2) .done
  have second : Run rule true (download c (some "5e") 1 2).run (trace.drop 6)
      (.error (.failed (.corrupt 3 "5e"))) true :=
    run_next (corrupt 1) (run_next (waits (by decide)) third)
  have fetches : Run rule true (download c none 0 3).run (trace.drop 4)
      (.error (.failed (.corrupt 3 "5e"))) true :=
    run_next (corrupt 0) (run_next (waits (by decide)) second)
  have known : Run rule true (obtainManifest c 1 1).run [⟨_, .manifest, some (.ok ⟨"v1", "5e", 1⟩)⟩]
      (.ok ⟨"v1", "5e", 1⟩) true := .act (answered true .manifest) .done
  have asks : Run rule false (obtainManifest c 0 2).run (trace.take 3)
      (.ok ⟨"v1", "5e", 1⟩) true :=
    .act (answered false .manifest) (run_next (waits (by decide)) known)
  have looks : Run rule true (isInstalled c ⟨"v1", "5e", 1⟩).run
      [⟨_, .fileLength "payload", some none⟩] (.ok false) true :=
    .act (answered true (.fileLength "payload")) .done
  have run : Run rule false (ensurePayload c).run trace (.error (.failed (.corrupt 3 "5e"))) true :=
    run_next asks (run_next looks (Program.run_bind_iff.2 ⟨_, [], _, true, rfl, fetches, .done⟩))
  have answers (β : Type) (s : Bool) (x : Action β) : ∃ b t, rule β s x b t :=
    ⟨truncated s x, true, rfl, rfl⟩
  have unbroken : Unbroken c rule := by
    rintro β s x b t ⟨rfl, -⟩
    cases x <;> simp [cut?, truncated]
  obtain ⟨-, every⟩ := ensurePayload_attempts answers unbroken (by decide) false
  obtain ⟨-, ⟨-, asked, -⟩, corrupt⟩ := every trace _ true run
  exact ⟨run, asked, ((corrupt 3 "5e").1 rfl).2.1⟩

end BuildDispatch.Supervisor
