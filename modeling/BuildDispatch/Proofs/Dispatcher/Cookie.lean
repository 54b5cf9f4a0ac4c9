import BuildDispatch.Proofs.Dispatcher.Contact

/-!
Cookies: of all that were issued to an agent, the last one lets its calls in, and a call that is not
let in changes nothing (`Dispatcher.let_in_by_last_cookie`).
-/
namespace BuildDispatch.Dispatcher

def issued? (uuid : String) (e : Entry Call Reply) : Option (Cookie × String) :=
  match e.call, e.answer with
  | .getCookie identity location _, .cookie issued =>
    if identity.uuid = uuid then some (issued, location) else none
  | _, _ => none

def lastIssued? (uuid : String) (log : List (Entry Call Reply)) : Option (Cookie × String) :=
  (log.filterMap (issued? uuid)).getLast?

theorem issued?_perform (d : Dispatcher) (x : Step Call) (uuid : String) :
    issued? uuid ⟨x, (d.perform x.now x.call).1⟩ =
      x.call.onRoster?.bind (Roster.Call.issued? uuid) := by
  obtain ⟨c, now⟩ := x
  cases c <;> rfl

theorem bound?_perform (d : Dispatcher) (x : Step Call) (uuid : String) :
    (d.perform x.now x.call).2.roster.bound? uuid =
      (issued? uuid ⟨x, (d.perform x.now x.call).1⟩).or (d.roster.bound? uuid) := by
  rw [issued?_perform, roster_perform]
  cases x.call.onRoster? with
  | none => rfl
  | some c => exact d.roster.bound?_after x.now uuid c

theorem bound?_call {s : Session Dispatcher}
    (h : ∀ uuid, s.state.roster.bound? uuid = lastIssued? uuid s.log) (x : Step Call)
    (uuid : String) : (s.call x).state.roster.bound? uuid = lastIssued? uuid (s.call x).log := by
  have issued := s.getLast?_filterMap_call x (issued? uuid)
  change lastIssued? uuid (s.call x).log =
    (issued? uuid ⟨x, (s.state.perform x.now x.call).1⟩).or (lastIssued? uuid s.log) at issued
  rw [issued, ← h]
  exact bound?_perform s.state x uuid

theorem bound?_session (config : Config) (payload : PayloadStore) (steps : List (Step Call))
    (uuid : String) : (session config payload steps).state.roster.bound? uuid =
      lastIssued? uuid (session config payload steps).log :=
  Session.run_keeps (P := fun s : Session Dispatcher =>
      ∀ uuid, s.state.roster.bound? uuid = lastIssued? uuid s.log)
    (fun _ x h => bound?_call h x) (fun _ => rfl) steps uuid

/-- An agent shows the cookie that was issued to it last, from the place to which it is bound. -/
def Shows (info : Snapshot) (log : List (Entry Call Reply)) : Prop :=
  ∀ cookie location, lastIssued? info.uuid log = some (cookie, location) →
    info.cookie = some cookie ∧ info.location = location

/--
An agent to which a cookie was issued is let in with the last one alone, and every agent is let in
until then. A call that is not let in changes nothing at all.
-/
theorem let_in_by_last_cookie (config : Config) (payload : PayloadStore)
    (steps : List (Step Call)) (x : Step Call) :
    let s := session config payload steps
    let answer := (s.state.perform x.now x.call).1
    let d' := (s.state.perform x.now x.call).2
    (∀ info, x.call.speaker? = some info →
      (Shows info s.log → ¬answer.Mismatch) ∧
      (¬Shows info s.log → answer.error? = some (.roster (.cookieMismatch info.uuid)))) ∧
    (answer.Mismatch → d' = s.state) := by
  intro s
  have admits (info : Snapshot) : s.state.roster.Admits info ↔ Shows info s.log := by
    unfold Roster.Admits Shows
    rw [bound?_session]
  constructor
  · intro info said
    rw [← admits]
    constructor
    · intro shown mismatch
      obtain ⟨info', said', refused⟩ := (mismatch_iff s.state x.now x.call).1 mismatch
      rw [said] at said'
      cases said'
      exact refused shown
    · intro refused
      exact (perform_of_not_admits s.state x.now said refused).1
  · intro mismatch
    obtain ⟨info, said, refused⟩ := (mismatch_iff s.state x.now x.call).1 mismatch
    exact (perform_of_not_admits s.state x.now said refused).2

def reissued (identity : AgentIdentity) : Session Dispatcher :=
  session ⟨true, .unrestricted, []⟩ (.new none none)
    [⟨.getCookie identity "/agent" ⟨"c1"⟩, 5⟩, ⟨.getCookie identity "/agent" ⟨"c2"⟩, 6⟩]

theorem let_in_by_last_cookie_stale :
    let identity : AgentIdentity := ⟨"host", "10.0.0.1", "u1"⟩
    let info := (Snapshot.fresh identity "/agent").withCookie ⟨"c1"⟩
    let s := reissued identity
    let answer := (s.state.perform 7 (.ping info)).1
    let d' := (s.state.perform 7 (.ping info)).2
    lastIssued? "u1" s.log = some (⟨"c2"⟩, "/agent") ∧ ¬Shows info s.log ∧
      answer.error? = some (.roster (.cookieMismatch "u1")) ∧ d' = s.state := by
  intro identity info s answer d'
  have stale : ¬Shows info s.log := by
    intro shown
    obtain ⟨same, -⟩ := shown ⟨"c2"⟩ "/agent" rfl
    revert same
    decide
  obtain ⟨let_in, kept⟩ := let_in_by_last_cookie ⟨true, .unrestricted, []⟩ (.new none none)
    [⟨.getCookie identity "/agent" ⟨"c1"⟩, 5⟩, ⟨.getCookie identity "/agent" ⟨"c2"⟩, 6⟩]
    ⟨.ping info, 7⟩
  have refused := (let_in info rfl).2 stale
  exact ⟨rfl, stale, refused, kept ⟨_, refused, rfl⟩⟩

end BuildDispatch.Dispatcher
