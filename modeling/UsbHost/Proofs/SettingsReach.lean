import Mathlib.Data.List.Forall2
import UsbHost.Proofs.FailureLog
import UsbHost.Proofs.Inheritance

/-!
# How far settings reach

The levels that a context was made with govern every resource that is derived from it, and every
failure that one of them logs. Which of the levels it is depends on the step alone, and on whether
the call releases an interface while a handle is torn down.
-/

set_option autoImplicit false

namespace UsbHost

variable {session : Session} {policies : Policies} {settings : CallSettings} {step : Step}

/-! ## Steps on what is derived from settings -/

/-- Whether a step makes no resource but from other resources or as a context with these
settings. -/
def Step.derives (settings : CallSettings) : Step → Bool
  | .context (.start _ (.settings given)) => given = settings
  | .context (.start ..) | .context (.empty _) | .context (.adopt ..) | .device (.empty _)
  | .device (.adopt _ _ none) | .handle (.empty _) | .handle (.adopt ..) | .descriptor (.empty _)
  | .descriptor (.adopt ..) => false
  | _ => true

def Act.derives (settings : CallSettings) : Act → Bool
  | .step step => step.derives settings
  | .giveBack _ | .returnReference _ | .choose _ => true

/-- The policy of the call that a step asks for: the one that the step names, the query policy
where a default stands in for a failure, and otherwise the policy of ordinary calls. -/
def Step.policy (policies : Policies) : Step → CallPolicy
  | .device (.config _ _ _ policy) | .device (.descriptor _ policy)
  | .handle (.configuration _ policy) | .handle (.autoDetach _ _ policy) =>
    policy.getD policies.call
  | .device (.descriptorOrDefault _) | .handle (.configurationOrDefault _) => policies.query
  | _ => policies.call

/-- Whether a step releases an interface at the client's request. -/
def Step.unclaims : Step → Bool
  | .handle (.unclaim ..) => true
  | _ => false

/-- The level at which a step reports a failed call. A release that nobody asked for is part of
the teardown of a handle. -/
def Step.level (policies : Policies) (step : Step) (function : NativeFunction) : Level :=
  if function = .releaseInterface ∧ ¬ step.unclaims then policies.cleanup.level
  else (step.policy policies).level

theorem Policies.ofSettings_eq {failure cleanup query : Level}
    (failureRead : settings.level .failure = .ok failure)
    (cleanupRead : settings.level .cleanup = .ok cleanup)
    (queryRead : settings.level .query = .ok query) :
    Policies.ofSettings settings =
      .ok { call := ⟨failure, true⟩, cleanup := ⟨cleanup, false⟩, query := ⟨query, false⟩ } := by
  rw [ofSettings, failureRead, cleanupRead, queryRead]
  rfl

theorem Session.introduces_derived (read : Policies.ofSettings settings = .ok policies)
    (derived : step.derives settings) :
    ∀ library ∈ session.introduces? step, library.policies = policies := by
  intro library introduced
  unfold introduces? at introduced
  split at introduced
  · next target source =>
    cases source with
    | defaults | policies given | session => contradiction
    | settings given =>
      obtain rfl : given = settings := by simpa [Step.derives] using derived
      obtain ⟨found, ofSettings, rfl⟩ := Option.map_eq_some_iff.mp introduced
      rw [read] at ofSettings
      exact (Option.some.inj ofSettings).symm
  all_goals contradiction

/-! ## The level of a failure -/

namespace Session

variable (carries : session.Carries fun library => library.policies = policies)
include carries

theorem request_level
    (introduced : ∀ library ∈ session.introduces? step, library.policies = policies)
    {function : NativeFunction} {governance : Governance}
    (request : session.request? step = some (function, governance)) :
    governance.policy.level = (step.policy policies).level ∧
      (function = .releaseInterface → step.unclaims) := by
  unfold request? at request
  split at request
  case h_1 start =>
    obtain ⟨library, starts, same⟩ := Option.map_eq_some_iff.mp request
    obtain ⟨rfl, rfl⟩ := Prod.mk.inj same
    have inherited : library.policies = policies := by
      refine introduced library ?_
      cases start with
      | start target source => exact starts
      | empty target | adopt target raw | look name | reset name raw | release name =>
        contradiction
    simp [Library.governs, Step.policy, inherited]
  -- The other calls are made through a resource that the session carries.
  all_goals
    first
    | contradiction
    | obtain ⟨value, found, same⟩ := Option.map_eq_some_iff.mp request
      obtain ⟨rfl, rfl⟩ := Prod.mk.inj same
      have inherited : value.library.policies = policies := by
        first
        | exact carries.found (Resources.context?_eq_some found)
        | exact carries.found (Resources.list?_eq_some found)
        | exact carries.found (Resources.device?_eq_some found)
        | exact carries.found (Resources.handle?_eq_some found)
      simp [Library.governs, Step.policy, Step.unclaims, CallPolicy.quiet, inherited]

theorem tornDown_inherits {handle : Handle} (torn : session.tornDown? step = some handle) :
    handle.library.policies = policies ∧ step.unclaims = false := by
  unfold tornDown? at torn
  split at torn
  case h_8 => exact ⟨(carries.remove _ _).found (Resources.handle?_eq_some torn), rfl⟩
  case h_9 => contradiction
  all_goals exact ⟨carries.found (Resources.handle?_eq_some torn), rfl⟩

theorem cleanup_level {function : NativeFunction} {governance : Governance}
    (governed : session.cleanup? step function = some governance) :
    governance.policy.level = step.level policies function := by
  unfold cleanup? at governed
  split at governed
  · next release =>
    obtain ⟨handle, torn, rfl⟩ := Option.map_eq_some_iff.mp governed
    obtain ⟨inherited, unasked⟩ := tornDown_inherits carries torn
    simp [Step.level, release, unasked, Handle.cleanup, Library.governs, inherited]
  · contradiction

/-- Whoever answers for a call of the step answers at the level of the step. -/
theorem governor_level
    (introduced : ∀ library ∈ session.introduces? step, library.policies = policies)
    {function : NativeFunction} {governance : Governance}
    (governed : session.governor step function = some governance) :
    governance.policy.level = step.level policies function := by
  unfold governor at governed
  split at governed
  · next requested asked request =>
    split at governed
    · next same =>
      obtain rfl := Option.some.inj governed
      subst same
      obtain ⟨level, released⟩ := request_level carries introduced request
      rw [Step.level, if_neg (fun unasked => unasked.2 (released unasked.1)), level]
    · exact cleanup_level carries governed
  · exact cleanup_level carries governed

end Session

/-! ## Runs -/

namespace Client

variable {client : Client}

theorem act_carries (read : Policies.ofSettings settings = .ok policies)
    (carries : client.session.Carries fun library => library.policies = policies) (act : Act)
    (derived : act.derives settings) :
    (client.act act).session.Carries fun library => library.policies = policies := by
  cases act with
  | step step => exact Session.step_carries carries step (Session.introduces_derived read derived)
  | giveBack title => exact NativeStep.carries carries (.call title.returnCall)
  | returnReference device => exact NativeStep.carries carries (.call (.unrefDevice device))
  | choose library => exact carries

theorem run_carries (read : Policies.ofSettings settings = .ok policies)
    (carries : client.session.Carries fun library => library.policies = policies)
    (acts : List Act) (derived : ∀ act ∈ acts, act.derives settings) :
    (client.run acts).session.Carries fun library => library.policies = policies := by
  induction acts generalizing client with
  | nil => exact carries
  | cons act rest ih =>
    obtain ⟨first, others⟩ := List.forall_mem_cons.mp derived
    exact ih (act_carries read carries act first) others

theorem callsOf_level (read : Policies.ofSettings settings = .ok policies)
    (carries : client.session.Carries fun library => library.policies = policies) (act : Act)
    (derived : act.derives settings) {call : Call} (member : call ∈ client.callsOf act)
    {governance : Governance} (governed : call.governance = some governance) :
    governance.policy.level = call.step.level policies call.entry.function := by
  cases act with
  | step step =>
    simp only [callsOf, Session.calls] at member
    split at member
    · contradiction
    · obtain ⟨entry, -, rfl⟩ := List.mem_map.mp member
      exact Session.governor_level carries (Session.introduces_derived read derived) governed
  | giveBack title | returnReference device | choose library => contradiction

theorem calls_level (read : Policies.ofSettings settings = .ok policies)
    (carries : client.session.Carries fun library => library.policies = policies)
    (acts : List Act) (derived : ∀ act ∈ acts, act.derives settings) {call : Call}
    (member : call ∈ client.calls acts) {governance : Governance}
    (governed : call.governance = some governance) :
    governance.policy.level = call.step.level policies call.entry.function := by
  induction acts generalizing client with
  | nil => contradiction
  | cons act rest ih =>
    obtain ⟨first, others⟩ := List.forall_mem_cons.mp derived
    rcases List.mem_append.mp member with now | later
    · exact callsOf_level read carries act first now governed
    · exact ih (act_carries read carries act first) others later

/-- However long a run derives resources from contexts that were made with the same settings, every
resource carries the policies of the settings, and every failure is logged at the level that they
set for calls of its kind. -/
theorem run_settings_reach (settings : CallSettings) {failure cleanup query : Level}
    (failureRead : settings.level .failure = .ok failure)
    (cleanupRead : settings.level .cleanup = .ok cleanup)
    (queryRead : settings.level .query = .ok query)
    (client : Client) (bare : client.session.resources = []) (acts : List Act)
    (derived : ∀ act ∈ acts, act.derives settings) :
    let policies : Policies :=
      { call := ⟨failure, true⟩, cleanup := ⟨cleanup, false⟩, query := ⟨query, false⟩ }
    (∀ resource ∈ (client.run acts).session.owners, resource.library.policies = policies) ∧
      ∃ events,
        (client.run acts).session.world.log.filter Event.isFailure =
          client.session.world.log.filter Event.isFailure ++ events ∧
        List.Forall₂ (fun call event => event.level = call.step.level policies call.entry.function)
          ((client.calls acts).filter Call.isFailed) events := by
  intro policies
  have read := Policies.ofSettings_eq failureRead cleanupRead queryRead
  have carries : client.session.Carries fun library => library.policies = policies := by
    simp [Session.Carries, Session.owners, bare]
  obtain ⟨events, logged, reported⟩ := (client.run_logged acts).failures
  refine ⟨run_carries read carries acts derived, events, logged, ?_⟩
  have governed : ∀ call ∈ (client.calls acts).filter Call.isFailed, ∀ governance,
      call.governance = some governance →
        governance.policy.level = call.step.level policies call.entry.function := by
    intro call member governance governed
    exact calls_level read carries acts derived (List.mem_filter.mp member).1 governed
  refine List.Forall₂.imp ?_ ((List.forall₂_and_left _ _).mpr ⟨governed, reported⟩)
  intro call event both
  obtain ⟨levels, governance, returned, reports⟩ := both
  rw [reports.same, Event.level]
  exact levels governance reports.governed

def graded : CallSettings :=
  { failureLevel := "warn", cleanupLevel := "info", queryLevel := "debug" }

/-- A context that cannot be started at first, a handle whose teardown fails, and a query that
answers with a default. -/
def gradedRun : List Act :=
  [.step (.control (.attach {})), .step (.control (.fail "libusb_init" (-1))),
    .step (.context (.start "context" (.settings graded))), .step (.control .clearFailures),
    .step (.context (.start "context" (.settings graded))),
    .step (.list (.enumerate "list" "context")), .step (.list (.device "list" 0 "device")),
    .step (.device (.openHandle "device" "handle")), .step (.handle (.claim "handle" 0)),
    .step (.control (.failReleaseOf 0 (-4))), .step (.drop .handle "handle"),
    .step (.control (.fail "libusb_get_device_descriptor" (-4))),
    .step (.device (.descriptorOrDefault "device"))]

theorem run_settings_reach_graded :
    let policies : Policies :=
      { call := ⟨.warn, true⟩, cleanup := ⟨.info, false⟩, query := ⟨.debug, false⟩ }
    (∀ act ∈ gradedRun, act.derives graded) ∧
      (fresh.run gradedRun).session.owners.length = 3 ∧
      ((fresh.run gradedRun).session.world.log.filter Event.isFailure).map Event.level =
        [.warn, .info, .debug] ∧
      (∀ resource ∈ (fresh.run gradedRun).session.owners, resource.library.policies = policies) ∧
      ∃ events,
        (fresh.run gradedRun).session.world.log.filter Event.isFailure =
          fresh.session.world.log.filter Event.isFailure ++ events ∧
        List.Forall₂ (fun call event => event.level = call.step.level policies call.entry.function)
          ((fresh.calls gradedRun).filter Call.isFailed) events := by
  have failureRead : graded.level .failure = .ok .warn := by decide
  have cleanupRead : graded.level .cleanup = .ok .info := by decide
  have queryRead : graded.level .query = .ok .debug := by decide
  have derived : ∀ act ∈ gradedRun, act.derives graded := by decide
  have alive : (fresh.run gradedRun).session.owners.length = 3 := by decide +kernel
  have levels : ((fresh.run gradedRun).session.world.log.filter Event.isFailure).map Event.level =
      [.warn, .info, .debug] := by decide +kernel
  exact ⟨derived, alive, levels,
    run_settings_reach graded failureRead cleanupRead queryRead fresh rfl gradedRun derived⟩

end Client

end UsbHost
