import UsbHost.Proofs.LikeOperations
import UsbHost.Session.Run

/-!
# Runs side by side

Two sessions that are alike stay alike when the same steps are performed in both, and every step
ends in both in the same way. Only a step that reads a text of the library or the levels and texts
of the log can tell them apart, and such a step changes nothing.
-/

set_option autoImplicit false

namespace UsbHost

open Usb

variable {like : Likeness}

/-! ## Resources under names -/

/-- The same names for resources that are alike, in the same order. -/
def Resources.Like (like : Likeness) (one other : Resources) : Prop :=
  List.Forall₂ (fun entry entry' => entry'.1 = entry.1 ∧ entry.2.Like like entry'.2) one other

namespace Resources.Like

variable {one other : Resources}

theorem find? (alike : Resources.Like like one other) (kind : ResourceKind) (name : String) :
    Option.Rel (Resource.Like like) (one.find? kind name) (other.find? kind name) := by
  induction alike with
  | nil => exact .none
  | @cons entry entry' rest rest' same alike ih =>
    obtain ⟨names, resources⟩ := same
    simp only [Resources.find?, List.find?_cons, names, resources.kind]
    cases entry.1 == name && entry.2.kind == kind with
    | true => exact .some resources
    | false => exact ih

theorem context? (alike : Resources.Like like one other) (name : String) :
    Option.Rel (Context.Like like) (one.context? name) (other.context? name) := by
  have found := alike.find? .context name
  unfold Resources.context?
  generalize one.find? .context name = slot at found ⊢
  generalize other.find? .context name = slot' at found ⊢
  cases found with
  | none => exact .none
  | some resources =>
    cases resources with
    | context contexts => exact .some contexts
    | list | device | handle | descriptor => exact .none

theorem list? (alike : Resources.Like like one other) (name : String) :
    Option.Rel (DeviceList.Like like) (one.list? name) (other.list? name) := by
  have found := alike.find? .list name
  unfold Resources.list?
  generalize one.find? .list name = slot at found ⊢
  generalize other.find? .list name = slot' at found ⊢
  cases found with
  | none => exact .none
  | some resources =>
    cases resources with
    | list lists => exact .some lists
    | context | device | handle | descriptor => exact .none

theorem device? (alike : Resources.Like like one other) (name : String) :
    Option.Rel (Device.Like like) (one.device? name) (other.device? name) := by
  have found := alike.find? .device name
  unfold Resources.device?
  generalize one.find? .device name = slot at found ⊢
  generalize other.find? .device name = slot' at found ⊢
  cases found with
  | none => exact .none
  | some resources =>
    cases resources with
    | device devices => exact .some devices
    | context | list | handle | descriptor => exact .none

theorem handle? (alike : Resources.Like like one other) (name : String) :
    Option.Rel (Handle.Like like) (one.handle? name) (other.handle? name) := by
  have found := alike.find? .handle name
  unfold Resources.handle?
  generalize one.find? .handle name = slot at found ⊢
  generalize other.find? .handle name = slot' at found ⊢
  cases found with
  | none => exact .none
  | some resources =>
    cases resources with
    | handle handles => exact .some handles
    | context | list | device | descriptor => exact .none

theorem descriptor? (alike : Resources.Like like one other) (name : String) :
    Option.Rel (ConfigDescriptor.Like like) (one.descriptor? name) (other.descriptor? name) := by
  have found := alike.find? .descriptor name
  unfold Resources.descriptor?
  generalize one.find? .descriptor name = slot at found ⊢
  generalize other.find? .descriptor name = slot' at found ⊢
  cases found with
  | none => exact .none
  | some resources =>
    cases resources with
    | descriptor descriptors => exact .some descriptors
    | context | list | device | handle => exact .none

theorem remove (alike : Resources.Like like one other) (kind : ResourceKind) (name : String) :
    Resources.Like like (one.remove kind name) (other.remove kind name) := by
  induction alike with
  | nil => exact .nil
  | @cons entry entry' rest rest' same alike ih =>
    obtain ⟨names, resources⟩ := same
    simp only [Resources.remove, List.filter_cons, names, resources.kind]
    cases entry.1 == name && entry.2.kind == kind with
    | true => exact ih
    | false => exact .cons ⟨names, resources⟩ ih

theorem put {resource resource' : Resource} (alike : Resources.Like like one other)
    (name : String) (resources : resource.Like like resource') :
    Resources.Like like (one.put name resource) (other.put name resource') := by
  unfold Resources.put
  rw [resources.kind]
  exact List.rel_append (alike.remove resource.kind name) (.cons ⟨rfl, resources⟩ .nil)

end Resources.Like

/-! ## Sessions and how their steps end -/

/-- Sessions that differ in the libraries of their resources and in their logs only. -/
structure Session.Like (like : Likeness) (one other : Session) : Prop where
  library : like.library one.library other.library
  worlds : like.Worlds one.world other.world
  resources : Resources.Like like one.resources other.resources
  arrays : other.heldArrays = one.heldArrays
  records : other.heldRecords = one.heldRecords

/-- Whether an answer shows no resource. -/
def Answer.isPlain : Answer → Bool
  | context _ | list _ | device _ | handle _ _ | descriptor _ => false
  | _ => true

inductive Answer.Like (like : Likeness) : Answer → Answer → Prop where
  | plain {answer : Answer} : answer.isPlain → Answer.Like like answer answer
  | context {one other : Context} : one.Like like other →
      Answer.Like like (.context one) (.context other)
  | list {one other : DeviceList} : one.Like like other → Answer.Like like (.list one) (.list other)
  | device {one other : Device} : one.Like like other →
      Answer.Like like (.device one) (.device other)
  | handle {one other : Handle} (claims : List Int) : one.Like like other →
      Answer.Like like (.handle one claims) (.handle other claims)
  | descriptor {one other : ConfigDescriptor} : one.Like like other →
      Answer.Like like (.descriptor one) (.descriptor other)

/-- Refusals that are alike, after the native calls in `calls`. -/
inductive Refusal.Like (like : Likeness) (calls : List JournalEntry) :
    Refusal → Refusal → Prop where
  | noSlot : Refusal.Like like calls .noSlot .noSlot
  | usb {error error' : UsbError} : like.Refused calls error error' →
      Refusal.Like like calls (.usb error) (.usb error')
  | settings (invalid : InvalidLevel) :
      Refusal.Like like calls (.setup (.settings invalid)) (.setup (.settings invalid))
  | setup {error error' : UsbError} : like.Refused calls error error' →
      Refusal.Like like calls (.setup (.usb error)) (.setup (.usb error'))
  | outOfRange (access : OutOfRange) :
      Refusal.Like like calls (.outOfRange access) (.outOfRange access)
  | indexOutOfBounds (length index : Nat) :
      Refusal.Like like calls (.indexOutOfBounds length index) (.indexOutOfBounds length index)

namespace Session

/-- Two steps, the one from `start`, ended in the same way and left sessions that are alike. What a
refusal may say depends on the calls before it, so these are kept with it. -/
inductive EndAlike (like : Likeness) (start : Session) : Ended → Ended → Prop where
  | answered {answer answer' : Answer} {after after' : Session} (claimed : Option (List UInt8)) :
      after.Like like after' → answer.Like like answer' →
      EndAlike like start ({ result := .ok answer, claimed }, after)
        ({ result := .ok answer', claimed }, after')
  | refused {refusal refusal' : Refusal} {after after' : Session} (claimed : Option (List UInt8))
      (calls : List JournalEntry) : after.Like like after' →
      after.world.bus.journal = start.world.bus.journal ++ calls →
      refusal.Like like calls refusal' →
      EndAlike like start ({ result := .error refusal, claimed }, after)
        ({ result := .error refusal', claimed }, after')

theorem EndAlike.after {start : Session} {ended ended' : Ended}
    (ends : EndAlike like start ended ended') : ended.2.Like like ended'.2 := by
  cases ends with
  | answered _ alike _ | refused _ _ alike _ _ => exact alike

variable {α β : Type} {values : α → β → Prop} {start one other : Session}

theorem Like.onWorld {world world' : World} (alike : one.Like like other)
    (worlds : like.Worlds world world') :
    Session.Like like { one with world } { other with world := world' } :=
  ⟨alike.library, worlds, alike.resources, alike.arrays, alike.records⟩

theorem Like.onBus (alike : one.Like like other) (bus : Bus) :
    Session.Like like { one with world := { one.world with bus } }
      { other with world := { other.world with bus } } :=
  alike.onWorld ⟨rfl, alike.worlds.log⟩

theorem Like.update {resource resource' : Resource} {world world' : World}
    (alike : one.Like like other) (name : String) (resources : resource.Like like resource')
    (worlds : like.Worlds world world') :
    Session.Like like (one.update name resource world) (other.update name resource' world') :=
  ⟨alike.library, worlds, alike.resources.put name resources, alike.arrays, alike.records⟩

theorem Like.store {resource resource' : Resource} (alike : one.Like like other) (name : String)
    (resources : resource.Like like resource') :
    Session.Like like (one.store name resource) (other.store name resource') := by
  have found := alike.resources.find? resource.kind name
  have put := alike.resources.put name resources
  unfold Session.store
  rw [resources.kind]
  generalize one.resources.find? resource.kind name = old at found ⊢
  generalize other.resources.find? resource.kind name = old' at found ⊢
  cases found with
  | none => exact ⟨alike.library, alike.worlds, put, alike.arrays, alike.records⟩
  | some olds =>
    exact ⟨alike.library, olds.drop alike.worlds, put, alike.arrays, alike.records⟩

theorem Like.onResources {resources resources' : Resources} (alike : one.Like like other)
    (related : Resources.Like like resources resources') :
    Session.Like like { one with resources } { other with resources := resources' } :=
  ⟨alike.library, alike.worlds, related, alike.arrays, alike.records⟩

theorem Like.onArrays (alike : one.Like like other) (arrays : Slots DeviceArray) :
    Session.Like like { one with heldArrays := arrays } { other with heldArrays := arrays } :=
  ⟨alike.library, alike.worlds, alike.resources, rfl, alike.records⟩

theorem Like.onRecords (alike : one.Like like other) (records : Slots ConfigPointer) :
    Session.Like like { one with heldRecords := records } { other with heldRecords := records } :=
  ⟨alike.library, alike.worlds, alike.resources, alike.arrays, rfl⟩

theorem Like.answer {answer answer' : Answer} (alike : one.Like like other)
    (answers : answer.Like like answer') :
    EndAlike like start (one.answer answer) (other.answer answer') :=
  .answered none alike answers

theorem Like.storing {resource resource' : Resource} (alike : one.Like like other) (name : String)
    (resources : resource.Like like resource') :
    EndAlike like start (Session.storing name resource one)
      (Session.storing name resource' other) :=
  (alike.store name resources).answer (.plain rfl)

theorem Like.withSlot {slot : Option α} {slot' : Option β} (alike : one.Like like other)
    (slots : Option.Rel values slot slot') {next : α → Ended} {next' : β → Ended}
    (ends : ∀ {value value'}, values value value' →
      EndAlike like one (next value) (next' value')) :
    EndAlike like one (one.withSlot slot next) (other.withSlot slot' next') := by
  cases slots with
  | none => exact .refused none [] alike (List.append_nil _).symm .noSlot
  | some related => exact ends related

/-- An operation that is refused ends the step; after one that is not, no step is refused any
more. -/
theorem Like.perform {operation : Usb α} {operation' : Usb β} (alike : one.Like like other)
    (operations : Usb.Alike like operation operation' one.world other.world values)
    {next : α → Session → Ended} {next' : β → Session → Ended}
    (ends : ∀ {value value' after after'}, values value value' → Session.Like like after after' →
      EndAlike like one (next value after) (next' value' after')) :
    EndAlike like one (one.perform operation next) (other.perform operation' next') := by
  unfold Usb.Alike at operations
  unfold Session.perform
  generalize operation one.world = ended at operations ⊢
  generalize operation' other.world = ended' at operations ⊢
  cases operations with
  | ok worlds related => exact ends related (alike.onWorld worlds)
  | error calls worlds journal refused =>
    exact .refused none calls (alike.onWorld worlds) journal (.usb refused)

theorem Like.done (alike : one.Like like other) :
    EndAlike like start (one.answer .done) (other.answer .done) :=
  alike.answer (.plain rfl)

theorem Like.withSame {slot : Option α} (alike : one.Like like other) {next next' : α → Ended}
    (ends : ∀ value, EndAlike like one (next value) (next' value)) :
    EndAlike like one (one.withSlot slot next) (other.withSlot slot next') := by
  cases slot with
  | none => exact .refused none [] alike (List.append_nil _).symm .noSlot
  | some value => exact ends value

theorem Like.run {operation : World → α × World} {operation' : World → β × World}
    (alike : one.Like like other)
    (ran : values (operation one.world).1 (operation' other.world).1 ∧
      like.Worlds (operation one.world).2 (operation' other.world).2)
    {next : α → Session → Ended} {next' : β → Session → Ended}
    (ends : ∀ {value value' after after'}, values value value' → Session.Like like after after' →
      EndAlike like start (next value after) (next' value' after')) :
    EndAlike like start (one.run operation next) (other.run operation' next') :=
  ends ran.1 (alike.onWorld ran.2)

theorem Like.runSame {operation operation' : World → α × World} (alike : one.Like like other)
    (ran : (operation' other.world).1 = (operation one.world).1 ∧
      like.Worlds (operation one.world).2 (operation' other.world).2)
    {next next' : α → Session → Ended}
    (ends : ∀ {value after after'}, Session.Like like after after' →
      EndAlike like start (next value after) (next' value after')) :
    EndAlike like start (one.run operation next) (other.run operation' next') := by
  change EndAlike like start _ (next' (operation' other.world).1 _)
  rw [ran.1]
  exact ends (alike.onWorld ran.2)

end Session

/-! ## Steps -/

/-- Whether a step reads a text of the library, or levels and texts from the log. -/
def Step.readsReports : Step → Bool
  | .native (.describe _) | .control (.logCount _) | .control (.logMessages _) => true
  | _ => false

theorem Step.reads_cases {step : Step} (reads : step.readsReports) :
    (∃ code, step = .native (.describe code)) ∨ (∃ level, step = .control (.logCount level)) ∨
      ∃ level, step = .control (.logMessages level) := by
  unfold Step.readsReports at reads
  split at reads
  · exact .inl ⟨_, rfl⟩
  · exact .inr (.inl ⟨_, rfl⟩)
  · exact .inr (.inr ⟨_, rfl⟩)
  · cases reads

theorem Session.step_of_reads {session : Session} {step : Step} (reads : step.readsReports) :
    (session.step step).2 = session := by
  obtain ⟨code, rfl⟩ | ⟨level, rfl⟩ | ⟨level, rfl⟩ := step.reads_cases reads <;> rfl

variable {one other : Session}

theorem ControlStep.perform_like (alike : one.Like like other) (step : ControlStep)
    (unread : (Step.control step).readsReports = false) :
    Session.EndAlike like one (step.perform one) (step.perform other) := by
  unfold ControlStep.perform
  dsimp only
  rw [alike.worlds.bus]
  cases step with
  | attach info | attachMany count info | failReleaseOf interface code | clearFailures =>
    exact (alike.onBus _).answer (.plain rfl)
  | fail name code =>
    dsimp only
    cases NativeFunction.ofName? name with
    | none => exact alike.answer (.plain rfl)
    | some function => exact (alike.onBus _).answer (.plain rfl)
  | references device | claims handle | countCalls name | callArguments name | misuseCount =>
    exact alike.answer (.plain rfl)
  | logCount level | logMessages level => cases unread

theorem ContextStep.startInto_settings (session : Session) (target : String)
    (settings : CallSettings) :
    startInto session target (.settings settings) =
      match Policies.ofSettings settings with
      | .error invalid => (.refused (.setup (.settings invalid)), session)
      | .ok policies =>
        match Context.start { session.library with policies } session.world with
        | .ok context world => Session.storing target (.context context) { session with world }
        | .error error world => (.refused (.setup (.usb error)), { session with world }) := by
  unfold startInto Session.run Context.startWithSettings
  dsimp only
  cases Policies.ofSettings settings with
  | error invalid => rfl
  | ok policies =>
    dsimp only
    cases Context.start { session.library with policies } session.world <;> rfl

theorem ContextStep.startInto_like (alike : one.Like like other) (target : String)
    (source : ContextSource) :
    Session.EndAlike like one (startInto one target source) (startInto other target source) := by
  have started {library library' : Library} (libraries : like.library library library') :
      Session.EndAlike like one
        (one.perform (Context.start library) fun context =>
          Session.storing target (.context context))
        (other.perform (Context.start library') fun context =>
          Session.storing target (.context context)) :=
    alike.perform (Context.start_like libraries alike.worlds) fun contexts after =>
      after.storing target (.context contexts)
  cases source with
  | defaults => exact started (like.settle alike.library {})
  | policies policies => exact started (like.settle alike.library policies)
  | session => exact started alike.library
  | settings settings =>
    rw [startInto_settings, startInto_settings]
    cases Policies.ofSettings settings with
    | error invalid =>
      exact .refused none [] alike (List.append_nil _).symm (.settings invalid)
    | ok policies =>
      have starts := Context.start_like (like.settle alike.library policies) alike.worlds
      unfold Usb.Alike at starts
      dsimp only
      generalize Context.start _ one.world = ended at starts ⊢
      generalize Context.start _ other.world = ended' at starts ⊢
      cases starts with
      | ok worlds contexts => exact (alike.onWorld worlds).storing target (.context contexts)
      | error calls worlds journal refused =>
        exact .refused none calls (alike.onWorld worlds) journal (.setup refused)

theorem ContextStep.perform_like (alike : one.Like like other) (step : ContextStep) :
    Session.EndAlike like one (step.perform one) (step.perform other) := by
  cases step with
  | start target source => exact startInto_like alike target source
  | empty target | adopt target raw =>
    exact alike.storing target (.context ⟨other.library, alike.library, rfl⟩)
  | look name =>
    exact alike.withSlot (alike.resources.context? name) fun contexts =>
      alike.answer (.context contexts)
  | reset name raw =>
    refine alike.withSlot (alike.resources.context? name) fun {context _} contexts => ?_
    obtain ⟨library, libraries, rfl⟩ := contexts
    obtain ⟨contexts, worlds⟩ := Context.reset_like libraries raw alike.worlds
    exact (alike.update name (.context contexts) worlds).done
  | release name =>
    refine alike.withSlot (alike.resources.context? name) fun contexts => ?_
    obtain ⟨library, libraries, rfl⟩ := contexts
    have after := alike.update name (.context (Context.release_like libraries)) alike.worlds
    exact after.answer (.plain rfl)

/-- Devices that are alike are stored under the same numbered names. -/
theorem ListStep.storeNumbered_like (stem : String) {devices devices' : List Device}
    (related : List.Forall₂ (Device.Like like) devices devices') (alike : one.Like like other) :
    (storeNumbered stem one devices).Like like (storeNumbered stem other devices') := by
  unfold storeNumbered
  generalize 0 = first
  induction related generalizing one other first with
  | nil => exact alike
  | cons devices related ih => exact ih (alike.store _ (.device devices)) _

theorem ListStep.raws_like {devices devices' : List Device}
    (related : List.Forall₂ (Device.Like like) devices devices') :
    devices'.map Device.raw = devices.map Device.raw := by
  induction related with
  | nil => rfl
  | cons devices related ih =>
    obtain ⟨library, -, rfl⟩ := devices
    exact congrArg (_ :: ·) ih

theorem ListStep.perform_like (alike : one.Like like other) (step : ListStep) :
    Session.EndAlike like one (step.perform one) (step.perform other) := by
  cases step with
  | enumerate target context =>
    exact alike.withSlot (alike.resources.context? context) fun contexts =>
      alike.perform (DeviceList.enumerate_like contexts alike.worlds) fun lists after =>
        after.storing target (.list lists)
  | look name =>
    exact alike.withSlot (alike.resources.list? name) fun lists => alike.answer (.list lists)
  | get name position =>
    refine alike.withSlot (alike.resources.list? name) fun lists => ?_
    obtain ⟨library, -, rfl⟩ := lists
    exact alike.answer (.plain rfl)
  | entryAt name position =>
    refine alike.withSlot (alike.resources.list? name) fun {list _} lists => ?_
    obtain ⟨library, -, rfl⟩ := lists
    have same : DeviceList.entryAt { list with library } position = list.entryAt position := rfl
    rw [same]
    cases list.entryAt position with
    | ok raw => exact alike.answer (.plain rfl)
    | error access =>
      exact .refused none [] alike (List.append_nil _).symm (.outOfRange access)
  | index name position =>
    refine alike.withSlot (alike.resources.list? name) fun {list _} lists => ?_
    obtain ⟨library, -, rfl⟩ := lists
    have same : DeviceList.get? { list with library } position = list.get? position := rfl
    rw [same]
    cases list.get? position with
    | some raw => exact alike.answer (.plain rfl)
    | none =>
      exact .refused none [] alike (List.append_nil _).symm (.indexOutOfBounds _ position)
  | device name position target =>
    refine alike.withSlot (alike.resources.list? name) fun lists => ?_
    obtain ⟨library, libraries, rfl⟩ := lists
    refine alike.run (DeviceList.device?_like libraries position alike.worlds)
      fun devices after => ?_
    cases devices with
    | none => exact after.answer (.plain rfl)
    | some devices => exact (after.store target (.device devices)).answer (.plain rfl)
  | devices name stem backwards =>
    refine alike.withSlot (alike.resources.list? name) fun lists => ?_
    obtain ⟨library, libraries, rfl⟩ := lists
    refine alike.run (DeviceList.devices_like libraries backwards alike.worlds)
      fun devices after => ?_
    rw [raws_like devices]
    exact (storeNumbered_like stem devices after).answer (.plain rfl)
  | find name path target =>
    refine alike.withSlot (alike.resources.list? name) fun lists => ?_
    obtain ⟨library, libraries, rfl⟩ := lists
    refine alike.run (DeviceList.findByPath_like libraries path alike.worlds)
      fun devices after => ?_
    cases devices with
    | none => exact after.answer (.plain rfl)
    | some devices =>
      obtain ⟨library, libraries, rfl⟩ := devices
      exact (after.store target (.device ⟨library, libraries, rfl⟩)).answer (.plain rfl)

theorem DeviceStep.perform_like (alike : one.Like like other) (step : DeviceStep) :
    Session.EndAlike like one (step.perform one) (step.perform other) := by
  cases step with
  | empty target => exact alike.storing target (.device ⟨other.library, alike.library, rfl⟩)
  | adopt target raw context =>
    cases context with
    | none =>
      exact alike.run (Device.ofRaw_like alike.library raw alike.worlds) fun devices after =>
        after.storing target (.device devices)
    | some context =>
      refine alike.withSlot (alike.resources.context? context) fun contexts => ?_
      obtain ⟨library, libraries, rfl⟩ := contexts
      exact alike.run (Device.ofRaw_like libraries raw alike.worlds) fun devices after =>
        after.storing target (.device devices)
  | look name =>
    exact alike.withSlot (alike.resources.device? name) fun devices =>
      alike.answer (.device devices)
  | clone name target =>
    refine alike.withSlot (alike.resources.device? name) fun devices => ?_
    obtain ⟨library, libraries, rfl⟩ := devices
    exact alike.run (Device.clone_like libraries alike.worlds) fun devices after =>
      after.storing target (.device devices)
  | reset name raw =>
    refine alike.withSlot (alike.resources.device? name) fun {device _} devices => ?_
    obtain ⟨library, libraries, rfl⟩ := devices
    obtain ⟨devices, worlds⟩ := Device.reset_like libraries raw alike.worlds
    exact (alike.update name (.device devices) worlds).done
  | release name =>
    refine alike.withSlot (alike.resources.device? name) fun devices => ?_
    obtain ⟨library, libraries, rfl⟩ := devices
    have after := alike.update name (.device (Device.release_like libraries)) alike.worlds
    exact after.answer (.plain rfl)
  | openHandle name target =>
    refine alike.withSlot (alike.resources.device? name) fun devices => ?_
    obtain ⟨library, libraries, rfl⟩ := devices
    exact alike.perform (Device.openHandle_like libraries alike.worlds) fun handles after =>
      after.storing target (.handle handles)
  | config name index target policy =>
    refine alike.withSlot (alike.resources.device? name) fun devices => ?_
    obtain ⟨library, libraries, rfl⟩ := devices
    cases policy with
    | none =>
      exact alike.perform (Device.configDescriptorWith_like libraries .ordinary index
        (like.raise libraries) alike.worlds) fun descriptors after =>
          after.storing target (.descriptor descriptors)
    | some policy =>
      exact alike.perform (Device.configDescriptorWith_like libraries (.explicit policy) index
        rfl alike.worlds) fun descriptors after => after.storing target (.descriptor descriptors)
  | descriptor name policy =>
    refine alike.withSlot (alike.resources.device? name) fun devices => ?_
    obtain ⟨library, libraries, rfl⟩ := devices
    cases policy with
    | none =>
      refine alike.perform (Device.descriptorWith_like libraries .ordinary
        (like.raise libraries) alike.worlds) fun same after => ?_
      exact same ▸ after.answer (.plain rfl)
    | some policy =>
      refine alike.perform (Device.descriptorWith_like libraries (.explicit policy) rfl
        alike.worlds) fun same after => ?_
      exact same ▸ after.answer (.plain rfl)
  | descriptorOrDefault name =>
    refine alike.withSlot (alike.resources.device? name) fun devices => ?_
    obtain ⟨library, libraries, rfl⟩ := devices
    exact alike.runSame (Device.descriptorOrDefault_like libraries alike.worlds) fun after =>
      after.answer (.plain rfl)
  | busNumber name =>
    refine alike.withSlot (alike.resources.device? name) fun {device _} devices => ?_
    obtain ⟨library, -, rfl⟩ := devices
    exact alike.runSame (device.busNumber_like library alike.worlds) fun after =>
      after.answer (.plain rfl)
  | address name =>
    refine alike.withSlot (alike.resources.device? name) fun {device _} devices => ?_
    obtain ⟨library, -, rfl⟩ := devices
    exact alike.runSame (device.address_like library alike.worlds) fun after =>
      after.answer (.plain rfl)
  | ports name =>
    refine alike.withSlot (alike.resources.device? name) fun devices => ?_
    obtain ⟨library, libraries, rfl⟩ := devices
    refine alike.perform (Device.portNumbers_like libraries alike.worlds) fun same after => ?_
    exact same ▸ after.answer (.plain rfl)
  | path name =>
    refine alike.withSlot (alike.resources.device? name) fun devices => ?_
    obtain ⟨library, libraries, rfl⟩ := devices
    refine alike.perform (Device.path_like libraries alike.worlds) fun same after => ?_
    exact same ▸ after.answer (.plain rfl)

theorem HandleStep.onClaims_like (alike : one.Like like other) (name : String) {handle : Handle}
    {library : Library} {operation operation' : Usb Handle}
    (operations : Usb.Alike like operation operation' one.world other.world (Handle.Like like)) :
    Session.EndAlike like one (onClaims one name handle operation)
      (onClaims other name { handle with library } operation') := by
  unfold Usb.Alike at operations
  unfold onClaims
  generalize operation one.world = ended at operations ⊢
  generalize operation' other.world = ended' at operations ⊢
  cases operations with
  | ok worlds handles =>
    obtain ⟨library, libraries, rfl⟩ := handles
    exact .answered _ (alike.update name (.handle ⟨library, libraries, rfl⟩) worlds) (.plain rfl)
  | error calls worlds journal refused =>
    exact .refused _ calls (alike.onWorld worlds) journal (.usb refused)

theorem HandleStep.perform_like (alike : one.Like like other) (step : HandleStep) :
    Session.EndAlike like one (step.perform one) (step.perform other) := by
  cases step with
  | empty target | adopt target raw =>
    exact alike.storing target (.handle ⟨other.library, alike.library, rfl⟩)
  | wrap target context systemHandle =>
    exact alike.withSlot (alike.resources.context? context) fun contexts =>
      alike.perform (Handle.wrapSystemDevice_like contexts systemHandle alike.worlds)
        fun handles after => after.storing target (.handle handles)
  | look name =>
    refine alike.withSlot (alike.resources.handle? name) fun handles => ?_
    obtain ⟨library, libraries, rfl⟩ := handles
    rw [alike.worlds.bus]
    exact alike.answer (.handle _ ⟨library, libraries, rfl⟩)
  | isClaimed name interface =>
    refine alike.withSlot (alike.resources.handle? name) fun handles => ?_
    obtain ⟨library, -, rfl⟩ := handles
    exact alike.answer (.plain rfl)
  | claim name interface =>
    refine alike.withSlot (alike.resources.handle? name) fun handles => ?_
    obtain ⟨library, libraries, rfl⟩ := handles
    exact onClaims_like alike name (Handle.claimInterface_like libraries interface alike.worlds)
  | unclaim name interface =>
    refine alike.withSlot (alike.resources.handle? name) fun handles => ?_
    obtain ⟨library, libraries, rfl⟩ := handles
    exact onClaims_like alike name (Handle.releaseInterface_like libraries interface alike.worlds)
  | setConfiguration name value =>
    refine alike.withSlot (alike.resources.handle? name) fun handles => ?_
    obtain ⟨library, libraries, rfl⟩ := handles
    exact alike.perform (Handle.setConfiguration_like libraries value alike.worlds)
      fun _ after => after.answer (.plain rfl)
  | configuration name policy =>
    refine alike.withSlot (alike.resources.handle? name) fun handles => ?_
    obtain ⟨library, libraries, rfl⟩ := handles
    cases policy with
    | none =>
      refine alike.perform (Handle.configurationWith_like libraries .ordinary
        (like.raise libraries) alike.worlds) fun same after => ?_
      exact same ▸ after.answer (.plain rfl)
    | some policy =>
      refine alike.perform (Handle.configurationWith_like libraries (.explicit policy) rfl
        alike.worlds) fun same after => ?_
      exact same ▸ after.answer (.plain rfl)
  | configurationOrDefault name =>
    refine alike.withSlot (alike.resources.handle? name) fun handles => ?_
    obtain ⟨library, libraries, rfl⟩ := handles
    exact alike.runSame (Handle.configurationOrDefault_like libraries alike.worlds) fun after =>
      after.answer (.plain rfl)
  | autoDetach name enable policy =>
    refine alike.withSlot (alike.resources.handle? name) fun handles => ?_
    obtain ⟨library, libraries, rfl⟩ := handles
    cases policy with
    | none =>
      exact alike.perform (Handle.setAutoDetachWith_like libraries .ordinary enable
        (like.raise libraries) alike.worlds) fun _ after => after.answer (.plain rfl)
    | some policy =>
      exact alike.perform (Handle.setAutoDetachWith_like libraries (.explicit policy) enable rfl
        alike.worlds) fun _ after => after.answer (.plain rfl)
  | device name target =>
    refine alike.withSlot (alike.resources.handle? name) fun handles => ?_
    obtain ⟨library, libraries, rfl⟩ := handles
    exact alike.perform (Handle.device_like libraries alike.worlds) fun devices after =>
      after.storing target (.device devices)
  | reset name raw =>
    refine alike.withSlot (alike.resources.handle? name) fun handles => ?_
    obtain ⟨library, libraries, rfl⟩ := handles
    obtain ⟨handles, worlds⟩ := Handle.reset_like libraries raw alike.worlds
    exact (alike.update name (.handle handles) worlds).done
  | close name =>
    refine alike.withSlot (alike.resources.handle? name) fun handles => ?_
    obtain ⟨library, libraries, rfl⟩ := handles
    obtain ⟨handles, worlds⟩ := Handle.reset_like libraries 0 alike.worlds
    exact (alike.update name (.handle handles) worlds).done
  | release name =>
    refine alike.withSlot (alike.resources.handle? name) fun handles => ?_
    obtain ⟨library, libraries, rfl⟩ := handles
    have after := alike.update name (.handle (Handle.release_like libraries)) alike.worlds
    exact after.answer (.plain rfl)

theorem DescriptorStep.perform_like (alike : one.Like like other) (step : DescriptorStep) :
    Session.EndAlike like one (step.perform one) (step.perform other) := by
  cases step with
  | empty target => exact alike.storing target (.descriptor ⟨other.library, alike.library, rfl⟩)
  | look name =>
    exact alike.withSlot (alike.resources.descriptor? name) fun descriptors =>
      alike.answer (.descriptor descriptors)
  | clear name =>
    refine alike.withSlot (alike.resources.descriptor? name) fun {descriptor _} descriptors => ?_
    obtain ⟨library, libraries, rfl⟩ := descriptors
    obtain ⟨descriptors, worlds⟩ := ConfigDescriptor.clear_like libraries alike.worlds
    exact (alike.update name (.descriptor descriptors) worlds).done
  | release name held =>
    refine alike.withSlot (alike.resources.descriptor? name) fun {descriptor _} descriptors => ?_
    obtain ⟨library, libraries, rfl⟩ := descriptors
    have after :=
      alike.update name (.descriptor (ConfigDescriptor.release_like libraries)) alike.worlds
    unfold ConfigDescriptor.release Owner.release at after ⊢
    dsimp only at after ⊢
    cases descriptor.owner.raw with
    | none => exact after.answer (.plain rfl)
    | some pointer =>
      rw [after.records]
      exact (after.onRecords _).answer (.plain rfl)
  | adopt target held =>
    cases held with
    | none => exact alike.storing target (.descriptor ⟨other.library, alike.library, rfl⟩)
    | some held =>
      unfold DescriptorStep.perform
      rw [alike.records]
      refine alike.withSame fun pointer => ?_
      exact (alike.onRecords _).storing target (.descriptor ⟨other.library, alike.library, rfl⟩)

theorem NativeStep.direct_like {start : Session} (alike : one.Like like other)
    (call : NativeCall) : Session.EndAlike like start (direct one call) (direct other call) :=
  alike.runSame (alike.worlds.ask call.perform) fun after => after.answer (.plain rfl)

theorem NativeStep.perform_like (alike : one.Like like other) (step : NativeStep)
    (unread : (Step.native step).readsReports = false) :
    Session.EndAlike like one (step.perform one) (step.perform other) := by
  cases step with
  | describe code => cases unread
  | call request => exact direct_like alike request
  | enumerate context held =>
    unfold NativeStep.perform
    refine alike.runSame (alike.worlds.ask (NativeApi.getDeviceList context)) fun after => ?_
    rw [after.arrays]
    exact (after.onArrays _).answer (.plain rfl)
  | readConfig device index held =>
    unfold NativeStep.perform
    refine alike.runSame (alike.worlds.ask (NativeApi.getConfigDescriptor device index))
      fun after => ?_
    rw [after.records]
    exact (after.onRecords _).answer (.plain rfl)
  | freeHeldArray held unref =>
    unfold NativeStep.perform
    rw [alike.arrays]
    refine alike.withSame fun array => ?_
    exact direct_like (alike.onArrays _) (.freeDeviceList (.block array.block) unref)
  | freeHeldRecord held =>
    unfold NativeStep.perform
    rw [alike.records]
    refine alike.withSame fun pointer => ?_
    exact direct_like (alike.onRecords _) (.freeConfigDescriptor pointer.ref)

namespace Session

/-- A step ends alike in two sessions that are alike, unless it reads what may differ. -/
theorem step_like (alike : one.Like like other) (step : Step) (unread : step.readsReports = false) :
    EndAlike like one (one.step step) (other.step step) := by
  cases step with
  | control step => exact step.perform_like alike unread
  | context step => exact step.perform_like alike
  | list step => exact step.perform_like alike
  | device step => exact step.perform_like alike
  | handle step => exact step.perform_like alike
  | descriptor step => exact step.perform_like alike
  | native step => exact step.perform_like alike unread
  -- These three act on a resource of any kind, so they need no case for each kind.
  | drop kind name =>
    refine alike.withSlot (alike.resources.find? kind name) fun resources => ?_
    have removed := alike.resources.remove kind name
    exact ((alike.onWorld (resources.drop alike.worlds)).onResources removed).done
  | move kind name target =>
    refine alike.withSlot (alike.resources.find? kind name) fun resources => ?_
    have removed := alike.resources.remove kind name
    exact (alike.onResources removed).storing target resources
  | inspect kind name pretty =>
    refine alike.withSlot (alike.resources.find? kind name) fun resources => ?_
    rw [resources.inspect]
    exact alike.answer (.plain rfl)

theorem step_stays_like (alike : one.Like like other) (step : Step) :
    (one.step step).2.Like like (other.step step).2 := by
  cases reads : step.readsReports with
  | true =>
    rw [step_of_reads reads, step_of_reads reads]
    exact alike
  | false => exact (step_like alike step reads).after

/-- Sessions that are alike stay alike through any run. -/
theorem steps_like (alike : one.Like like other) (steps : List Step) :
    (one.steps steps).Like like (other.steps steps) := by
  induction steps generalizing one other with
  | nil => exact alike
  | cons step rest ih => exact ih (step_stays_like alike step)

end Session

end UsbHost
