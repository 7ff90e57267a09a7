import UsbHost.Proofs.Governance
import UsbHost.Proofs.Refusal

/-!
# Reports of a session

For every step of a session it is written down here which checked call the step asks for, under
which policy, and which handle it tears down. Every failed call of the step is then reported as
that says and nothing else is, and the step raises a failure of the native library exactly if the
call that it asks for fails under a policy that raises.
-/

set_option autoImplicit false

namespace UsbHost

variable {α : Type} {session : Session}

/-! ## What a step asks for -/

/-- Whether the operation of a step hands the failures of its native call to the caller. -/
def Step.returnsResult : Step → Bool
  | .context (.start ..) | .list (.enumerate ..) => true
  | .device (.openHandle ..) | .device (.config ..) | .device (.descriptor ..)
  | .device (.ports _) | .device (.path _) => true
  | .handle (.wrap ..) | .handle (.claim ..) | .handle (.unclaim ..)
  | .handle (.setConfiguration ..) | .handle (.configuration ..) | .handle (.autoDetach ..)
  | .handle (.device ..) => true
  | _ => false

/-- Whether a step on a device or handle needs the raw one. -/
def Step.needsRaw (resource : Resource) : Step → Bool
  | .handle (.claim _ interface) => interface ∉ resource.claimed
  | .handle (.unclaim _ interface) => interface ∈ resource.claimed
  | _ => true

/-- Whether a step makes a device of the one behind a handle. -/
def Step.asksDevice : Step → Bool
  | .handle (.device ..) => true
  | _ => false

namespace Session

/-- The checked call that a step asks for, and who answers for it. -/
def request? (session : Session) : Step → Option (NativeFunction × Governance)
  | .context step =>
    (session.startsWith? (.context step)).map fun library =>
      (.initLibrary, library.governs "UsbContext::new" library.policies.call)
  | .list (.enumerate _ context) =>
    (session.resources.context? context).map fun context =>
      (.getDeviceList, context.library.governs "DeviceList::new" context.library.policies.call)
  | .list (.find name _ _) =>
    (session.resources.list? name).map fun list =>
      (.getPortNumbers, list.library.governs "UsbDevice::port_numbers" list.library.policies.call)
  | .device (.openHandle name _) =>
    (session.resources.device? name).map fun device =>
      (.openDevice, device.library.governs "UsbDevice::open" device.library.policies.call)
  | .device (.config name _ _ policy) =>
    (session.resources.device? name).map fun device =>
      (.getConfigDescriptor, device.library.governs "UsbDevice::config_descriptor"
        (policy.getD device.library.policies.call))
  | .device (.descriptor name policy) =>
    (session.resources.device? name).map fun device =>
      (.getDeviceDescriptor, device.library.governs "UsbDevice::device_descriptor"
        (policy.getD device.library.policies.call))
  | .device (.descriptorOrDefault name) =>
    (session.resources.device? name).map fun device =>
      (.getDeviceDescriptor, device.library.governs "UsbDevice::device_descriptor"
        device.library.policies.query.quiet)
  | .device (.ports name) | .device (.path name) =>
    (session.resources.device? name).map fun device =>
      (.getPortNumbers,
        device.library.governs "UsbDevice::port_numbers" device.library.policies.call)
  | .handle (.wrap _ context _) =>
    (session.resources.context? context).map fun context =>
      (.wrapSystemDevice, context.library.governs "DeviceHandle::wrap_sys_device"
        context.library.policies.call)
  | .handle (.claim name _) =>
    (session.resources.handle? name).map fun handle =>
      (.claimInterface, handle.library.governs "DeviceHandle::claim_interface"
        handle.library.policies.call)
  | .handle (.unclaim name _) =>
    (session.resources.handle? name).map fun handle =>
      (.releaseInterface, handle.library.governs "DeviceHandle::release_interface"
        handle.library.policies.call)
  | .handle (.setConfiguration name _) =>
    (session.resources.handle? name).map fun handle =>
      (.setConfiguration, handle.library.governs "DeviceHandle::set_configuration"
        handle.library.policies.call)
  | .handle (.configuration name policy) =>
    (session.resources.handle? name).map fun handle =>
      (.getConfiguration, handle.library.governs "DeviceHandle::configuration"
        (policy.getD handle.library.policies.call))
  | .handle (.configurationOrDefault name) =>
    (session.resources.handle? name).map fun handle =>
      (.getConfiguration, handle.library.governs "DeviceHandle::configuration"
        handle.library.policies.query.quiet)
  | .handle (.autoDetach name _ policy) =>
    (session.resources.handle? name).map fun handle =>
      (.setAutoDetach, handle.library.governs "DeviceHandle::set_auto_detach_kernel_driver"
        (policy.getD handle.library.policies.call))
  | _ => none

/-- The handle that a step tears down: the one that it ends, or the one that stood in the place of
a handle that it stores. -/
def tornDown? (session : Session) : Step → Option Handle
  | .device (.openHandle _ target) | .handle (.empty target) | .handle (.adopt target _)
  | .handle (.wrap target ..) => session.resources.handle? target
  | .handle (.reset name _) | .handle (.close name) | .drop .handle name =>
    session.resources.handle? name
  | .move .handle name target => (session.resources.remove .handle name).handle? target
  | _ => none

/-- Who answers for the releases of a step that tears a handle down. -/
def cleanup? (session : Session) (step : Step) (function : NativeFunction) : Option Governance :=
  if function = .releaseInterface then (session.tornDown? step).map Handle.cleanup else none

/-- Who answers for the calls of a step. -/
def governor (session : Session) (step : Step) : Governor := fun function =>
  match session.request? step with
  | some (requested, governance) =>
    if requested = function then some governance else session.cleanup? step function
  | none => session.cleanup? step function

theorem governor_requested {step : Step} {function : NativeFunction} {governance : Governance}
    (request : session.request? step = some (function, governance)) :
    session.governor step function = some governance := by
  unfold governor
  rw [request]
  exact if_pos rfl

/-- The one step that asks for a release tears nothing down. -/
theorem request?_tornDown {step : Step} {handle : Handle} {request : NativeFunction × Governance}
    (torn : session.tornDown? step = some handle) (asked : session.request? step = some request) :
    request.1 ≠ .releaseInterface := by
  unfold tornDown? at torn
  split at torn
  case h_1 | h_4 =>
    obtain ⟨value, -, rfl⟩ := Option.map_eq_some_iff.mp asked
    simp
  all_goals contradiction

theorem governor_tornDown {step : Step} {handle : Handle}
    (torn : session.tornDown? step = some handle) :
    session.governor step .releaseInterface = some handle.cleanup := by
  have cleanup : session.cleanup? step .releaseInterface = some handle.cleanup := by
    rw [cleanup?, if_pos rfl, torn]
    rfl
  unfold governor
  cases asked : session.request? step with
  | none => exact cleanup
  | some request =>
    dsimp only
    rw [if_neg (request?_tornDown torn asked), cleanup]

end Session

/-- Whether a step ended with this failure of the native library. -/
def Outcome.Raises (outcome : Outcome) (error : UsbError) : Prop :=
  outcome.result = .error (.usb error) ∨ outcome.result = .error (.setup (.usb error))

theorem Outcome.not_raises {outcome : Outcome} (ok : outcome.result.isOk) (error : UsbError) :
    ¬ outcome.Raises error := by
  rintro (refused | refused) <;> simp [refused, Except.isOk, Except.toBool] at ok

@[simp] theorem Outcome.raises_refused {refusal : Refusal} {error : UsbError} :
    (Outcome.refused refusal).Raises error ↔
      refusal = .usb error ∨ refusal = .setup (.usb error) := by
  simp [Raises, refused]

namespace Session

/-- A step that needs a raw device or handle finds none. -/
def Lacks (session : Session) (step : Step) : Prop :=
  ∃ resource, session.receiver? step = some resource ∧ resource.title? = none ∧
    step.needsRaw resource

/-- A step asks for the device behind a handle that is not open on the bus. -/
def Strays (session : Session) (step : Step) : Prop :=
  ∃ name target handle raw, step = .handle (.device name target) ∧
    session.resources.handle? name = some handle ∧ handle.owner.raw = some raw ∧
    (session.world.bus.getDevice raw).1 = 0

/-- How a step of a session ends: what it calls and reports, and what it raises. -/
inductive Reported (session : Session) (step : Step) : Ended → Prop where
  /-- The step began with the call that it asks for. -/
  | asked {ended : Ended} {function : NativeFunction} {governance : Governance}
      {argument : Option Int} {returned : Int} {calls : List JournalEntry} :
      session.request? step = some (function, governance) →
      session.world.Accounts (session.governor step)
        ({ function, argument, returned := some returned } :: calls) ended.2.world →
      (∀ error, ended.1.Raises error ↔
        (step.returnsResult ∧ returned < 0 ∧ governance.policy.raise) ∧
          error = governance.failure returned) →
      ¬ session.Lacks step → Reported session step ended
  /-- The step was refused before any call. -/
  | lacking {ended : Ended} : session.Lacks step → session.Vacant ended →
      Reported session step ended
  | straying {ended : Ended} : session.Strays step →
      session.world.Told (session.governor step) ended.2.world →
      ended.1.result = .error (.usb (.ofKind .noDevice)) → Reported session step ended
  /-- The step raised nothing, and the call that it asks for, if any, was not made. -/
  | idle {ended : Ended} : session.world.Told (session.governor step) ended.2.world →
      (∀ error, ¬ ended.1.Raises error) →
      (step.returnsResult → session.request? step = none ∨ ended.2.world = session.world) →
      ¬ session.Lacks step → ¬ session.Strays step → Reported session step ended

variable {step : Step} {name : String}

/-- A step that is neither on a device nor on a handle lacks nothing. -/
theorem not_lacks (noReceiver : session.receiver? step = none) : ¬ session.Lacks step := by
  rintro ⟨resource, receiver, -⟩
  rw [noReceiver] at receiver
  contradiction

theorem not_lacks_of_title {resource : Resource} {title : Title}
    (receiver : session.receiver? step = some resource) (owned : resource.title? = some title) :
    ¬ session.Lacks step := by
  rintro ⟨other, received, empty, -⟩
  obtain rfl := Option.some.inj (receiver.symm.trans received)
  rw [owned] at empty
  contradiction

theorem not_strays (straight : step.asksDevice = false) : ¬ session.Strays step := by
  intro strays
  obtain ⟨name, target, handle, raw, rfl, -⟩ := strays
  contradiction

/-- A step told what it had to tell and raised nothing. -/
structure Calm (session : Session) (step : Step) (ended : Ended) : Prop where
  told : session.world.Told (session.governor step) ended.2.world
  raises : ∀ error, ¬ ended.1.Raises error

theorem calm_ok {ended : Ended} (ok : ended.1.result.isOk)
    (told : session.world.Told (session.governor step) ended.2.world) :
    session.Calm step ended :=
  ⟨told, Outcome.not_raises ok⟩

theorem calm_unchanged {outcome : Outcome} (raises : ∀ error, ¬ outcome.Raises error) :
    session.Calm step (outcome, session) :=
  ⟨.refl .., raises⟩

theorem withSlot_calm {slot : Option α} {next : α → Ended}
    (present : ∀ value, slot = some value → session.Calm step (next value)) :
    session.Calm step (session.withSlot slot next) := by
  unfold withSlot
  cases found : slot with
  | some value => exact present value found
  | none => exact calm_unchanged fun error => by simp

theorem withSlot_reported {slot : Option α} {next : α → Ended}
    (missing : slot = none → session.request? step = none ∧ session.receiver? step = none)
    (straight : slot = none → ¬ session.Strays step)
    (present : ∀ value, slot = some value → session.Reported step (next value)) :
    session.Reported step (session.withSlot slot next) := by
  unfold withSlot
  cases found : slot with
  | some value => exact present value found
  | none =>
    have calm : session.Calm step session.noSlot := calm_unchanged fun error => by simp
    obtain ⟨noRequest, noReceiver⟩ := missing found
    exact .idle calm.told calm.raises (fun _ => .inl noRequest) (not_lacks noReceiver)
      (straight found)

/-- A step that hands no failure to the caller only has to tell what it calls. -/
theorem Calm.reported {ended : Ended} (calm : session.Calm step ended)
    (result : step.returnsResult = false) : session.Reported step ended := by
  have apart : session.receiver? step = none ∧ step.asksDevice = false := by
    cases step with
    | device step => cases step <;> first | exact ⟨rfl, rfl⟩ | contradiction
    | handle step => cases step <;> first | exact ⟨rfl, rfl⟩ | contradiction
    | control step | context step | list step | descriptor step | native step | drop kind name
    | move kind name target | inspect kind name pretty => exact ⟨rfl, rfl⟩
  refine .idle calm.told calm.raises (fun returns => ?_) (not_lacks apart.1) (not_strays apart.2)
  rw [result] at returns
  contradiction

/-- A step that ends as its operation ends, which makes the call that the step asks for. -/
theorem requests_reported {operation : Usb α} {function : NativeFunction}
    {governance : Governance} {ended : Ended} (result : step.returnsResult)
    (request : session.request? step = some (function, governance))
    (requests : operation.Requests session.world (session.governor step) function governance)
    (present : ¬ session.Lacks step)
    (whenOk : ∀ value after, operation session.world = .ok value after →
      ended.1.result.isOk ∧ after.Told (session.governor step) ended.2.world)
    (whenRefused : ∀ error after, operation session.world = .error error after →
      ended.2.world = after ∧ ∀ other, ended.1.Raises other ↔ error = other) :
    session.Reported step ended := by
  obtain ⟨argument, returned, ends⟩ := requests
  cases reached : operation session.world with
  | ok value after =>
    obtain ⟨passes, calls, accounts⟩ := ends.of_ok reached
    obtain ⟨ok, later, accountsLater⟩ := whenOk value after reached
    refine .asked request (accounts.trans accountsLater) (fun error => ?_) present
    exact iff_of_false (Outcome.not_raises ok error) fun fails => passes fails.1.2
  | error error after =>
    obtain ⟨fails, same, calls, accounts⟩ := ends.of_error reached
    obtain ⟨kept, raises⟩ := whenRefused error after reached
    refine .asked request (by rw [kept]; exact accounts) (fun other => ?_) present
    rw [raises other, same, eq_comm]
    exact (and_iff_right ⟨result, fails⟩).symm

theorem perform_reported {operation : Usb α} {next : α → Session → Ended}
    {function : NativeFunction} {governance : Governance} (result : step.returnsResult)
    (request : session.request? step = some (function, governance))
    (requests : operation.Requests session.world (session.governor step) function governance)
    (present : ¬ session.Lacks step)
    (answers : ∀ value after, (next value { session with world := after }).1.result.isOk ∧
      after.Told (session.governor step) (next value { session with world := after }).2.world) :
    session.Reported step (session.perform operation next) := by
  refine requests_reported result request requests present (fun value after reached => ?_)
    fun error after reached => ?_
  · rw [perform, reached]
    exact answers value after
  · rw [perform, reached]
    exact ⟨rfl, fun other => by simp⟩

/-- A step on a device or handle that needs the raw one and makes one call with it. -/
theorem receiver_reported {β : Type} {slot : Option β} {wrap : β → Resource}
    {function : NativeFunction} {governance : β → Governance} {operation : β → Usb α}
    {next : α → Session → Ended} (result : step.returnsResult)
    (straight : step.asksDevice = false)
    (needs : ∀ value, step.needsRaw (wrap value))
    (request : session.request? step = slot.map fun value => (function, governance value))
    (receiver : session.receiver? step = slot.map wrap)
    (vacant : ∀ value, (wrap value).title? = none →
      operation value session.world = .error (.ofKind .invalidParam) session.world)
    (requests : ∀ value title, (wrap value).title? = some title →
      session.governor step function = some (governance value) →
      (operation value).Requests session.world (session.governor step) function (governance value))
    (answers : ∀ value after, (next value { session with world := after }).1.result.isOk ∧
      after.Told (session.governor step) (next value { session with world := after }).2.world) :
    session.Reported step
      (session.withSlot slot fun value => session.perform (operation value) next) := by
  refine withSlot_reported (fun missing => ?_) (fun _ => not_strays straight) fun value found => ?_
  · rw [request, receiver, missing]
    exact ⟨rfl, rfl⟩
  · rw [found] at request receiver
    cases owned : (wrap value).title? with
    | none =>
      exact .lacking ⟨wrap value, receiver, owned, needs value⟩
        (perform_vacant (vacant value owned))
    | some title =>
      exact perform_reported result request
        (requests value title owned (governor_requested request))
        (not_lacks_of_title receiver owned) answers

end Session

end UsbHost
