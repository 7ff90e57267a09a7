import UsbHost.Proofs.StepReports

/-!
# The log of failures

Over a whole run, the failures in the log are those of the native calls that were made through the
resources, in order and one for one. A step raises a failure exactly if its own call failed under a
policy that raises, or if it needs a raw device or handle and has none.
-/

set_option autoImplicit false

namespace UsbHost

variable {session : Session} {step : Step}

/-- A native call that a step made through a resource, and who answers for it. -/
structure Call where
  step : Step
  governance : Option Governance
  entry : JournalEntry

/-- The event reports the failed call as those who answer for it say. -/
structure Call.Reports (call : Call) (governance : Governance) (returned : Int) (event : Event) :
    Prop where
  governed : call.governance = some governance
  answered : call.entry.returned = some returned
  negative : returned < 0 ∧ narrowed returned < 0
  same : event = .failure governance.policy.level governance.site call.entry.function.name
    (narrowed returned) (governance.describe (narrowed returned))
  message : event.message = governance.site ++ " failed " ++ call.entry.function.name ++ "(): " ++
    governance.describe (narrowed returned)

/-- Whether the call answered a negative code. -/
def Call.isFailed (call : Call) : Bool := call.entry.isFailed

/-- The failures that were logged between two worlds are those of the calls. -/
structure World.Logged (before : World) (calls : List Call) (after : World) : Prop where
  failures : ∃ events,
    after.log.filter Event.isFailure = before.log.filter Event.isFailure ++ events ∧
      List.Forall₂ (fun call event => ∃ governance returned, call.Reports governance returned event)
        (calls.filter Call.isFailed) events
  answered : ∀ call ∈ calls, call.entry.returned.isSome = call.entry.function.isFallible

namespace Session

/-- The journal entries that a step adds. -/
def made (session : Session) (step : Step) : List JournalEntry :=
  (session.world.changes (session.step step).2.world).calls

/-- The call of a step that wrote a journal entry. -/
def call (session : Session) (step : Step) (entry : JournalEntry) : Call where
  step
  governance := session.governor step entry.function
  entry

/-- The calls that a step makes through the resources. -/
def calls (session : Session) (step : Step) : List Call :=
  if step.isNative then [] else (session.made step).map (session.call step)

/-- A step began with the call that it asks for, and the call failed. -/
def Fails (session : Session) (step : Step) (governance : Governance) (returned : Int) : Prop :=
  ∃ function argument rest, session.request? step = some (function, governance) ∧
    session.made step = { function, argument, returned := some returned } :: rest ∧ returned < 0

theorem made_eq {governor : Governor} {calls : List JournalEntry}
    (accounts : session.world.Accounts governor calls (session.step step).2.world) :
    session.made step = calls := by
  rw [made, World.changes, accounts.journal]
  exact List.drop_left

theorem made_unchanged (same : (session.step step).2.world = session.world) :
    session.made step = [] := by
  simp [made, World.changes, same]

theorem Reported.told {ended : Ended} (reported : session.Reported step ended) :
    session.world.Told (session.governor step) ended.2.world := by
  cases reported with
  | asked request accounts raises => exact accounts.told
  | lacking lacks vacant =>
    rw [vacant.unchanged]
    exact .refl ..
  | straying strays told refused => exact told
  | idle told => exact told

theorem Lacks.not_strays (lacks : session.Lacks step) : ¬ session.Strays step := by
  intro strays
  obtain ⟨resource, receiver, empty, -⟩ := lacks
  obtain ⟨name, target, handle, raw, rfl, found, owned, -⟩ := strays
  simp only [receiver?, found, Option.map_some, Option.some.injEq] at receiver
  subst receiver
  simp [Resource.title?, owned] at empty

theorem Strays.no_request (strays : session.Strays step) : session.request? step = none := by
  obtain ⟨name, target, handle, raw, rfl, -⟩ := strays
  rfl

section Fails

variable {function : NativeFunction} {governance other : Governance} {argument : Option Int}
  {returned code : Int} {rest : List JournalEntry}

theorem fails_iff (request : session.request? step = some (function, governance))
    (made : session.made step = { function, argument, returned := some returned } :: rest) :
    session.Fails step other code ↔ (governance = other ∧ returned = code) ∧ code < 0 := by
  constructor
  · intro fails
    obtain ⟨called, given, later, requested, first, negative⟩ := fails
    obtain ⟨rfl, rfl⟩ := Prod.mk.inj (Option.some.inj (request.symm.trans requested))
    have same := (List.cons.inj (made.symm.trans first)).1
    exact ⟨⟨rfl, Option.some.inj (JournalEntry.mk.inj same).2.2⟩, negative⟩
  · intro same
    obtain ⟨⟨rfl, rfl⟩, negative⟩ := same
    exact ⟨function, argument, rest, request, made, negative⟩

/-- A call that was not asked for, or not made, has not failed. -/
theorem not_fails
    (idle : session.request? step = none ∨ (session.step step).2.world = session.world) :
    ¬ session.Fails step governance returned := by
  intro fails
  obtain ⟨function, argument, rest, request, first, -⟩ := fails
  rcases idle with none | same
  · rw [none] at request
    contradiction
  · rw [made_unchanged same] at first
    contradiction

end Fails

/-- Why a step raises a failure. -/
inductive Cause (session : Session) (step : Step) : UsbError → Prop where
  | lacking : session.Lacks step → Cause session step (.ofKind .invalidParam)
  | failed {governance : Governance} {returned : Int} : step.returnsResult →
      session.Fails step governance returned → governance.policy.raise →
      Cause session step (governance.failure returned)
  | straying : session.Strays step → Cause session step (.ofKind .noDevice)

theorem Reported.raises_iff (reported : session.Reported step (session.step step))
    (error : UsbError) : (session.step step).1.Raises error ↔ session.Cause step error := by
  cases reported with
  | @asked function governance argument returned calls request accounts raises present =>
    have made := made_eq accounts
    rw [raises]
    constructor
    · intro raised
      obtain ⟨⟨result, negative, raise⟩, rfl⟩ := raised
      exact .failed result ((fails_iff request made).mpr ⟨⟨rfl, rfl⟩, negative⟩) raise
    · intro cause
      cases cause with
      | lacking lacks => exact absurd lacks present
      | failed result fails raise =>
        obtain ⟨⟨rfl, rfl⟩, negative⟩ := (fails_iff request made).mp fails
        exact ⟨⟨result, negative, raise⟩, rfl⟩
      | straying strays => exact absurd strays.no_request (by simp [request])
  | lacking lacks vacant =>
    have raises : (session.step step).1.Raises error ↔ .ofKind .invalidParam = error := by
      simp [Outcome.Raises, vacant.result]
    rw [raises]
    constructor
    · intro same
      subst same
      exact .lacking lacks
    · intro cause
      cases cause with
      | lacking => rfl
      | failed result fails raise =>
        exact absurd fails (not_fails (.inr (congrArg Session.world vacant.unchanged)))
      | straying strays => exact absurd strays lacks.not_strays
  | straying strays told refused =>
    have raises : (session.step step).1.Raises error ↔ .ofKind .noDevice = error := by
      simp [Outcome.Raises, refused]
    rw [raises]
    constructor
    · intro same
      subst same
      exact .straying strays
    · intro cause
      cases cause with
      | lacking lacks => exact absurd strays lacks.not_strays
      | failed result fails raise => exact absurd fails (not_fails (.inl strays.no_request))
      | straying => rfl
  | idle told raises quiet present straight =>
    refine iff_of_false (raises error) fun cause => ?_
    cases cause with
    | lacking lacks => exact present lacks
    | failed result fails raise => exact not_fails (quiet result) fails
    | straying strays => exact straight strays

end Session

/-! ## Reports over a run -/

namespace World

variable {before middle after : World} {calls later : List Call}

theorem Logged.silent (same : after.log = before.log) : before.Logged [] after where
  failures := ⟨[], by simp [same], .nil⟩
  answered := List.forall_mem_nil _

theorem Logged.trans (first : before.Logged calls middle) (second : middle.Logged later after) :
    before.Logged (calls ++ later) after where
  failures := by
    obtain ⟨events, logged, reported⟩ := first.failures
    obtain ⟨others, loggedLater, reportedLater⟩ := second.failures
    refine ⟨events ++ others, by rw [loggedLater, logged, List.append_assoc], ?_⟩
    rw [List.filter_append]
    exact List.rel_append reported reportedLater
  answered := List.forall_mem_append.mpr ⟨first.answered, second.answered⟩

end World

namespace Session

theorem call_reports {entry : JournalEntry} {event : Event} (failed : entry.isFailed)
    (reported : (session.governor step).report? entry = some event) :
    ∃ governance returned, (session.call step entry).Reports governance returned event := by
  obtain ⟨governance, governed, asked⟩ := Option.bind_eq_some_iff.mp reported
  obtain ⟨returned, answered, rfl⟩ := Option.map_eq_some_iff.mp asked
  have negative : returned < 0 := by
    rw [JournalEntry.isFailed, answered] at failed
    simpa using failed
  exact ⟨governance, returned, governed, answered, ⟨negative, narrowed_neg negative⟩, rfl, rfl⟩

/-- Entries that ask for exactly these events, in order, are reported by them one for one. -/
theorem calls_report {entries : List JournalEntry} {events : Log}
    (failed : ∀ entry ∈ entries, entry.isFailed)
    (matched : events.map some = entries.map (session.governor step).report?) :
    List.Forall₂ (fun call event => ∃ governance returned, call.Reports governance returned event)
      (entries.map (session.call step)) events := by
  induction entries generalizing events with
  | nil =>
    obtain rfl : events = [] := by simpa using matched
    exact .nil
  | cons entry rest ih =>
    cases events with
    | nil => simp at matched
    | cons event others =>
      obtain ⟨first, matchedRest⟩ := List.cons.inj matched
      obtain ⟨failedFirst, failedRest⟩ := List.forall_mem_cons.mp failed
      exact .cons (call_reports failedFirst first.symm) (ih failedRest matchedRest)

theorem logged_of_accounts {entries : List JournalEntry} {after : World}
    (accounts : session.world.Accounts (session.governor step) entries after) :
    session.world.Logged (entries.map (session.call step)) after where
  failures := by
    obtain ⟨lines, logged, matched⟩ := accounts.log
    refine ⟨lines.filter Event.isFailure, by rw [logged, List.filter_append], ?_⟩
    rw [List.filter_map]
    exact calls_report (fun entry member => (List.mem_filter.mp member).2) matched
  answered := List.forall_mem_map.mpr accounts.answered

end Session

/-- A call past the resources logs nothing and raises nothing. -/
theorem NativeStep.silent (step : NativeStep) :
    (step.perform session).2.world.log = session.world.log ∧
      ∀ error, ¬ (step.perform session).1.Raises error := by
  cases step with
  | describe code | call call | enumerate context held | readConfig device index held =>
    exact ⟨rfl, Outcome.not_raises rfl⟩
  | freeHeldArray held unref =>
    cases found : session.heldArrays.get? held with
    | none =>
      rw [perform, found]
      exact ⟨rfl, fun error => by simp [Session.withSlot, Session.noSlot]⟩
    | some array =>
      rw [perform, found]
      exact ⟨rfl, Outcome.not_raises rfl⟩
  | freeHeldRecord held =>
    cases found : session.heldRecords.get? held with
    | none =>
      rw [perform, found]
      exact ⟨rfl, fun error => by simp [Session.withSlot, Session.noSlot]⟩
    | some record =>
      rw [perform, found]
      exact ⟨rfl, Outcome.not_raises rfl⟩

theorem Session.step_logged (session : Session) (step : Step) :
    session.world.Logged (session.calls step) (session.step step).2.world := by
  unfold calls
  cases native : step.isNative with
  | false =>
    obtain ⟨entries, accounts⟩ := (session.step_reported native).told
    rw [made_eq accounts]
    exact logged_of_accounts accounts
  | true =>
    cases step with
    | native step => exact .silent step.silent.1
    | control step | context step | list step | device step | handle step | descriptor step
    | drop kind name | move kind name target | inspect kind name pretty => contradiction

theorem Session.step_raises_iff (session : Session) (step : Step) (error : UsbError) :
    (session.step step).1.Raises error ↔ session.Cause step error := by
  cases native : step.isNative with
  | false => exact (session.step_reported native).raises_iff error
  | true =>
    cases step with
    | native step =>
      refine iff_of_false (step.silent.2 error) fun cause => ?_
      cases cause with
      | lacking lacks => exact absurd lacks (not_lacks rfl)
      | failed result => contradiction
      | straying strays => exact absurd strays (not_strays rfl)
    | control step | context step | list step | device step | handle step | descriptor step
    | drop kind name | move kind name target | inspect kind name pretty => contradiction

/-- A step that lacks its raw device or handle calls nothing and logs nothing. -/
theorem Session.Lacks.unchanged (lacks : session.Lacks step) :
    (session.step step).2 = session := by
  cases native : step.isNative with
  | false =>
    cases session.step_reported native with
    | asked request accounts raises present => exact absurd lacks present
    | lacking lacks vacant => exact vacant.unchanged
    | straying strays => exact absurd strays lacks.not_strays
    | idle told raises quiet present => exact absurd lacks present
  | true =>
    cases step with
    | native step => exact absurd lacks (not_lacks rfl)
    | control step | context step | list step | device step | handle step | descriptor step
    | drop kind name | move kind name target | inspect kind name pretty => contradiction

/-- While a client keeps to the rules, every handle that it has is open on the bus. -/
theorem Session.Kept.not_strays {terms : Terms} {ledger : Ledger}
    (kept : session.Kept terms ledger) : ¬ session.Strays step := by
  rintro ⟨name, target, handle, raw, -, found, owned, null⟩
  obtain ⟨opened, isOpen, -, nonNull⟩ := kept.seated (Resources.handle?_eq_some found) raw owned
  rw [Bus.getDevice_found isOpen] at null
  exact nonNull null

namespace Client

variable {client : Client}

/-- The calls that an act makes through the resources. -/
def callsOf (client : Client) : Act → List Call
  | .step step => client.session.calls step
  | .giveBack _ | .returnReference _ | .choose _ => []

/-- The calls that a run makes through the resources, oldest first. -/
def calls : Client → List Act → List Call
  | _, [] => []
  | client, act :: rest => client.callsOf act ++ (client.act act).calls rest

theorem act_logged (client : Client) (act : Act) :
    client.session.world.Logged (client.callsOf act) (client.act act).session.world := by
  cases act with
  | step step => exact client.session.step_logged step
  | giveBack title => exact .silent (NativeStep.call title.returnCall).silent.1
  | returnReference device => exact .silent (NativeStep.call (.unrefDevice device)).silent.1
  | choose library => exact .silent rfl

theorem run_logged (client : Client) (acts : List Act) :
    client.session.world.Logged (client.calls acts) (client.run acts).session.world := by
  induction acts generalizing client with
  | nil => exact .silent rfl
  | cons act rest ih => exact (client.act_logged act).trans (ih (client.act act))

/-- The failures that a run logs are those of the native calls that it makes through the resources,
one for one and in order, as the operation and the policy of each call say. A step raises a failure
exactly if it lacks the raw device or handle that it needs, and then does nothing else, or if its
own call failed under a policy that raises. A third cause, a handle that is not open on the bus, is
left to clients that break the rules. -/
theorem run_failures_logged (client : Client) (acts : List Act) :
    client.session.world.Logged (client.calls acts) (client.run acts).session.world ∧
      ∀ step,
        (∀ error, ((client.run acts).session.step step).1.Raises error ↔
          (client.run acts).session.Cause step error) ∧
        ((client.run acts).session.Lacks step →
          ((client.run acts).session.step step).2 = (client.run acts).session) ∧
        ∀ terms, client.Kept terms → client.Permitted terms acts →
          ¬ (client.run acts).session.Strays step := by
  refine ⟨client.run_logged acts, fun step => ⟨?_, ?_, ?_⟩⟩
  · exact (client.run acts).session.step_raises_iff step
  · exact Session.Lacks.unchanged
  · intro terms kept permitted
    exact (run_leads kept acts permitted).2.not_strays

/-- One release fails while a handle is torn down, and one device cannot be opened. -/
def failuresRun : List Act :=
  [.step (.control (.attach {})), .step (.device (.adopt "device" 4096 none)),
    .step (.device (.openHandle "device" "handle")), .step (.handle (.claim "handle" 0)),
    .step (.control (.failReleaseOf 0 (-4))), .step (.handle (.close "handle")),
    .step (.control (.fail "libusb_open" (-3))), .step (.device (.openHandle "device" "handle"))]

theorem run_failures_logged_closing :
    fresh.Permitted .free failuresRun ∧
      ((fresh.calls failuresRun).filter Call.isFailed).map (fun call => call.entry.function) =
        [.releaseInterface, .openDevice] ∧
      fresh.session.world.Logged (fresh.calls failuresRun)
        (fresh.run failuresRun).session.world ∧
      ∀ step, ¬ (fresh.run failuresRun).session.Strays step := by
  have permitted : fresh.Permitted .free failuresRun := by decide
  obtain ⟨logged, steps⟩ := fresh.run_failures_logged failuresRun
  refine ⟨permitted, by decide, logged, fun step => ?_⟩
  exact (steps step).2.2 .free (fresh_kept rfl) permitted

end Client

end UsbHost
