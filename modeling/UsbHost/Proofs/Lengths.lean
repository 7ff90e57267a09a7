import UsbHost.Proofs.Growth
import UsbHost.Proofs.Inheritance
import UsbHost.Proofs.ListSizes

/-!
# Lengths behind pointers

A device list and a configuration descriptor remember how long the array is that they point to. The
array is as long as they remember, whatever codes are injected and whichever failures are passed
over: where a call fails it writes no pointer, and without one nothing is looked at.
-/

set_option autoImplicit false

namespace UsbHost

variable {α β : Type} {session : Session} {kind : ResourceKind} {name : String}
  {resource : Resource}

/-- The native library has built the record. -/
def ConfigRecord.Built (record : ConfigRecord) : Prop :=
  ∃ value interfaces, record = .build value interfaces

/-- The array that is answered is no shorter than the code read as a word. -/
def Reply.Whole (reply : Reply DeviceArray) : Prop :=
  ∀ array, reply.out = some array → (reply.code % UInt64.size).toNat ≤ array.entries.length

def Reply.Built (reply : Reply ConfigPointer) : Prop :=
  ∀ pointer, reply.out = some pointer → pointer.record.Built

/-- What a resource points to is as long as the resource remembers. -/
inductive Resource.Whole : Resource → Prop where
  | context (value : Context) : Whole (.context value)
  | device (value : Device) : Whole (.device value)
  | handle (value : Handle) : Whole (.handle value)
  | list {value : DeviceList} :
      (∀ array, value.array = some array → value.size ≤ array.entries.length) → Whole (.list value)
  | descriptor {value : ConfigDescriptor} :
      (∀ pointer, value.owner.raw = some pointer → pointer.record.Built) →
      Whole (.descriptor value)

theorem Resource.Whole.unowned (library : Library) :
    Resource.Whole (.descriptor { library, owner := .empty }) :=
  .descriptor fun _ owned => nomatch owned

/-! ## What operations make -/

namespace Usb

theorem Yields.chain {first : Usb β} {next : β → Usb α} {earlier : β → Prop} {property : α → Prop}
    (yields : first.Yields earlier)
    (later : ∀ value, earlier value → (next value).Yields property) :
    Yields (first >>= next) property := by
  intro world answered after reached
  simp only [Bind.bind, EStateM.bind] at reached
  split at reached
  · next value middle first => exact later value (yields _ _ _ first) middle answered after reached
  · contradiction

theorem invoke_yields (property : Reply α → Prop) {library : Library} {policy : CallPolicy}
    {site : String} {function : NativeFunction} {native : Bus → Reply α × Bus}
    (answers : ∀ bus, property (native bus).1) :
    (library.invoke policy site function native).Yields property := by
  intro world reply after reached
  rw [invoke_eq] at reached
  split at reached
  · contradiction
  · obtain ⟨rfl, -⟩ := EStateM.Result.ok.inj reached
    exact answers world.bus

end Usb

theorem Bus.getDeviceList_whole (bus : Bus) : bus.getDeviceList.1.Whole := by
  unfold Reply.Whole
  cases injected : bus.injected .getDeviceList with
  | some code =>
    rw [Bus.getDeviceList_injected injected]
    exact nofun
  | none =>
    rw [Bus.getDeviceList_answered injected]
    intro array written
    obtain rfl := Option.some.inj written
    have length : bus.enumeration.entries.length = bus.devices.length := List.length_map ..
    rw [length]
    exact Nat.mod_le ..

theorem DeviceList.enumerate_whole (context : Context) :
    (enumerate context).Yields fun list => Resource.Whole (.list list) := by
  refine (Usb.invoke_yields Reply.Whole Bus.getDeviceList_whole).chain fun reply whole => ?_
  exact .bind fun _ => .pure (.list whole)

theorem Bus.getConfigDescriptor_built (bus : Bus) (device : Address) (index : UInt8) :
    (bus.getConfigDescriptor device index).1.Built := by
  intro pointer written
  rcases bus.getConfigDescriptor_writes device index with
    ⟨nothing, -⟩ | ⟨value, interfaces, made, -⟩
  · rw [nothing] at written
    contradiction
  · obtain rfl := Option.some.inj (made.symm.trans written)
    exact ⟨value, interfaces, rfl⟩

theorem Device.configDescriptorWith_whole (device : Device) (policy : CallPolicy) (index : UInt8) :
    (device.configDescriptorWith policy index).Yields fun descriptor =>
      Resource.Whole (.descriptor descriptor) := by
  refine .bind fun raw => ?_
  have yields := fun bus : Bus => bus.getConfigDescriptor_built raw index
  refine (Usb.invoke_yields Reply.Built yields).chain fun reply built => ?_
  split
  · exact .pure (.descriptor nofun)
  · exact .pure (.descriptor built)

/-! ## Sessions -/

/-- Every owner of a session is whole, and every record that is held was built. -/
structure Session.Whole (session : Session) : Prop where
  owned : ∀ entry ∈ session.resources, entry.2.Whole
  held : ∀ entry ∈ session.heldRecords, entry.2.record.Built

namespace Session.Whole

theorem found (whole : session.Whole) (found : session.resources.find? kind name = some resource) :
    resource.Whole := by
  obtain ⟨entry, member, rfl⟩ := List.mem_map.mp (Resources.mem_of_find? found)
  exact whole.owned entry member

theorem elsewhere (whole : session.Whole) (world : World) : { session with world }.Whole :=
  ⟨whole.owned, whole.held⟩

theorem remove (whole : session.Whole) (kind : ResourceKind) (name : String) :
    { session with resources := session.resources.remove kind name }.Whole :=
  ⟨fun entry member => whole.owned entry (List.mem_of_mem_filter member), whole.held⟩

theorem put (whole : session.Whole) (new : resource.Whole) (name : String) :
    { session with resources := session.resources.put name resource }.Whole := by
  refine ⟨fun entry member => ?_, whole.held⟩
  rcases List.mem_append.mp member with old | new'
  · exact whole.owned entry (List.mem_of_mem_filter old)
  · rw [List.mem_singleton.mp new']
    exact new

theorem update (whole : session.Whole) (new : resource.Whole) (name : String) (world : World) :
    (session.update name resource world).Whole :=
  (whole.put new name).elsewhere world

theorem store (whole : session.Whole) (new : resource.Whole) (name : String) :
    (session.store name resource).Whole := by
  unfold Session.store
  dsimp only
  split
  · exact (whole.put new name).elsewhere _
  · exact whole.put new name

theorem drop_held (whole : session.Whole) (name : String) :
    { session with heldRecords := session.heldRecords.remove name }.Whole :=
  ⟨whole.owned, fun entry member => whole.held entry (List.mem_of_mem_filter member)⟩

theorem hold {written : Option ConfigPointer} (whole : session.Whole)
    (built : ∀ pointer, written = some pointer → pointer.record.Built) (name : String) :
    { session with heldRecords := session.heldRecords.hold name written }.Whole := by
  cases written with
  | none => exact whole
  | some pointer =>
    refine ⟨whole.owned, fun entry member => ?_⟩
    rcases List.mem_append.mp member with old | new
    · exact whole.held entry (List.mem_of_mem_filter old)
    · rw [List.mem_singleton.mp new]
      exact built pointer rfl

theorem held_found {pointer : ConfigPointer} (whole : session.Whole)
    (found : session.heldRecords.get? name = some pointer) : pointer.record.Built := by
  obtain ⟨entry, inside, rfl⟩ := Option.map_eq_some_iff.mp found
  exact whole.held entry (List.mem_of_find?_eq_some inside)

theorem withSlot {slot : Option α} {next : α → Ended} (whole : session.Whole)
    (present : ∀ value, slot = some value → (next value).2.Whole) :
    (session.withSlot slot next).2.Whole := by
  unfold Session.withSlot
  cases found : slot with
  | some value => exact present value found
  | none => exact whole

theorem perform (property : α → Prop) {operation : Usb α} {next : α → Session → Ended}
    (whole : session.Whole) (yields : operation.Yields property)
    (answers : ∀ value world, property value → (next value { session with world }).2.Whole) :
    (session.perform operation next).2.Whole := by
  unfold Session.perform
  cases reached : operation session.world with
  | ok value after => exact answers value after (yields _ _ _ reached)
  | error error after => exact whole.elsewhere after

/-- What an operation answers does not matter where it is not kept, or is of a kind that remembers
no length. -/
theorem perform_any {operation : Usb α} {next : α → Session → Ended} (whole : session.Whole)
    (answers : ∀ value world, (next value { session with world }).2.Whole) :
    (session.perform operation next).2.Whole :=
  whole.perform (fun _ => True) (fun _ _ _ _ => trivial) fun value world _ => answers value world

end Session.Whole

/-! ### Steps -/

theorem ControlStep.whole (whole : session.Whole) (step : ControlStep) :
    (step.perform session).2.Whole := by
  cases step with
  | fail function code =>
    unfold perform
    dsimp only
    split
    · exact whole.elsewhere _
    · exact whole
  | attach info | attachMany count info | failReleaseOf interface code | clearFailures
  | references device | claims handle | countCalls function | callArguments function
  | misuseCount | logCount level | logMessages level => exact whole.elsewhere _

theorem ContextStep.whole (whole : session.Whole) (step : ContextStep) :
    (step.perform session).2.Whole := by
  cases step with
  | start target source =>
    cases source with
    | defaults | policies policies | session =>
      exact whole.perform_any fun _ world => (whole.elsewhere world).store (.context _) target
    | settings settings =>
      unfold perform startInto Session.run
      dsimp only
      split
      · exact (whole.elsewhere _).store (.context _) target
      · exact whole.elsewhere _
  | empty target | adopt target raw => exact whole.store (.context _) target
  | look name => exact whole.withSlot fun _ _ => whole
  | reset name raw | release name =>
    exact whole.withSlot fun _ _ => whole.update (.context _) name _

theorem ListStep.storeNumbered_whole (stem : String) (whole : session.Whole)
    (devices : List Device) : (storeNumbered stem session devices).Whole := by
  unfold storeNumbered
  induction devices.zipIdx generalizing session with
  | nil => exact whole
  | cons entry rest ih => exact ih (whole.store (.device _) _)

theorem ListStep.whole (whole : session.Whole) (step : ListStep) :
    (step.perform session).2.Whole := by
  cases step with
  | enumerate target context =>
    refine whole.withSlot fun value _ => ?_
    exact whole.perform _ (DeviceList.enumerate_whole value) fun list world new =>
      (whole.elsewhere world).store new target
  | look name | get name position => exact whole.withSlot fun _ _ => whole
  | entryAt name position | index name position =>
    refine whole.withSlot fun list _ => ?_
    split
    · exact whole
    · exact whole
  | device name position target | find name path target =>
    refine whole.withSlot fun list _ => ?_
    unfold Session.run
    dsimp only
    split
    · exact (whole.elsewhere _).store (.device _) target
    · exact whole.elsewhere _
  | devices name stem backwards =>
    refine whole.withSlot fun list _ => ?_
    exact storeNumbered_whole stem (whole.elsewhere _) _

theorem DeviceStep.whole (whole : session.Whole) (step : DeviceStep) :
    (step.perform session).2.Whole := by
  cases step with
  | empty target => exact whole.store (.device _) target
  | adopt target raw context =>
    cases context with
    | none => exact (whole.elsewhere _).store (.device _) target
    | some context => exact whole.withSlot fun _ _ => (whole.elsewhere _).store (.device _) target
  | look name => exact whole.withSlot fun _ _ => whole
  | descriptorOrDefault name | busNumber name | address name =>
    exact whole.withSlot fun _ _ => whole.elsewhere _
  | clone name target =>
    exact whole.withSlot fun _ _ => (whole.elsewhere _).store (.device _) target
  | reset name raw | release name => exact whole.withSlot fun _ _ => whole.update (.device _) name _
  | openHandle name target =>
    refine whole.withSlot fun _ _ => ?_
    exact whole.perform_any fun _ world => (whole.elsewhere world).store (.handle _) target
  | config name index target policy =>
    refine whole.withSlot fun device _ => ?_
    cases policy with
    | none | some policy =>
      exact whole.perform _ (device.configDescriptorWith_whole _ index) fun descriptor world new =>
        (whole.elsewhere world).store new target
  | descriptor name policy | ports name | path name =>
    exact whole.withSlot fun _ _ => whole.perform_any fun _ world => whole.elsewhere world

theorem HandleStep.onClaims_whole (whole : session.Whole) (name : String) (handle : Handle)
    (operation : Usb Handle) : (onClaims session name handle operation).2.Whole := by
  unfold onClaims
  cases operation session.world with
  | ok value after => exact whole.update (.handle _) name after
  | error error after => exact whole.elsewhere after

theorem HandleStep.whole (whole : session.Whole) (step : HandleStep) :
    (step.perform session).2.Whole := by
  cases step with
  | empty target | adopt target raw => exact whole.store (.handle _) target
  | wrap target context systemHandle =>
    refine whole.withSlot fun _ _ => ?_
    exact whole.perform_any fun _ world => (whole.elsewhere world).store (.handle _) target
  | look name | isClaimed name interface => exact whole.withSlot fun _ _ => whole
  | claim name interface | unclaim name interface =>
    exact whole.withSlot fun handle _ => onClaims_whole whole name handle _
  | configurationOrDefault name => exact whole.withSlot fun _ _ => whole.elsewhere _
  | setConfiguration name value | configuration name policy | autoDetach name enable policy =>
    exact whole.withSlot fun _ _ => whole.perform_any fun _ world => whole.elsewhere world
  | device name target =>
    refine whole.withSlot fun _ _ => ?_
    exact whole.perform_any fun _ world => (whole.elsewhere world).store (.device _) target
  | reset name raw | close name | release name =>
    exact whole.withSlot fun _ _ => whole.update (.handle _) name _

theorem DescriptorStep.whole (whole : session.Whole) (step : DescriptorStep) :
    (step.perform session).2.Whole := by
  cases step with
  | empty target => exact whole.store (.unowned _) target
  | look name => exact whole.withSlot fun _ _ => whole
  | clear name => exact whole.withSlot fun _ _ => whole.update (.unowned _) name _
  | release name held =>
    refine whole.withSlot fun descriptor found => ?_
    have owner := whole.found (Resources.descriptor?_eq_some found)
    have released : (session.update name (.descriptor descriptor.release.2) session.world).Whole :=
      whole.update (.unowned _) name _
    cases owner with
    | descriptor built =>
      dsimp only
      split
      · next pointer owned =>
        have given : ∀ other, some pointer = some other → other.record.Built :=
          fun other same => built other (owned.trans same)
        exact released.hold given held
      · exact released
  | adopt target held =>
    cases held with
    | none => exact whole.store (.unowned _) target
    | some held =>
      refine whole.withSlot fun pointer found => ?_
      have built := whole.held_found found
      refine (whole.drop_held held).store (.descriptor fun owned same => ?_) target
      obtain rfl := Option.some.inj same
      exact built

theorem NativeStep.whole (whole : session.Whole) (step : NativeStep) :
    (step.perform session).2.Whole := by
  cases step with
  | describe code | call call => exact whole.elsewhere _
  | enumerate context held => exact ⟨whole.owned, whole.held⟩
  | readConfig device index held =>
    have built := session.world.bus.getConfigDescriptor_built device index
    exact (whole.elsewhere _).hold built held
  | freeHeldArray held unref => exact whole.withSlot fun _ _ => ⟨whole.owned, whole.held⟩
  | freeHeldRecord held => exact whole.withSlot fun _ _ => (whole.drop_held held).elsewhere _

theorem Session.step_whole (whole : session.Whole) (step : Step) : (session.step step).2.Whole := by
  cases step with
  | control step => exact step.whole whole
  | context step => exact step.whole whole
  | list step => exact step.whole whole
  | device step => exact step.whole whole
  | handle step => exact step.whole whole
  | descriptor step => exact step.whole whole
  | native step => exact step.whole whole
  | drop kind name =>
    exact whole.withSlot fun _ _ => (whole.remove kind name).elsewhere _
  | move kind name target =>
    exact whole.withSlot fun _ found => (whole.remove kind name).store (whole.found found) target
  | inspect kind name pretty => exact whole.withSlot fun _ _ => whole

theorem Client.act_whole {client : Client} (whole : client.session.Whole) (act : Act) :
    (client.act act).session.Whole := by
  cases act with
  | step step => exact Session.step_whole whole step
  | giveBack title => exact Session.step_whole whole (.native (.call title.returnCall))
  | returnReference device => exact Session.step_whole whole (.native (.call (.unrefDevice device)))
  | choose library => exact ⟨whole.owned, whole.held⟩

theorem Client.run_whole (acts : List Act) : (fresh.run acts).session.Whole := by
  have start : fresh.session.Whole := ⟨List.forall_mem_nil _, List.forall_mem_nil _⟩
  unfold run
  generalize fresh = client at start
  induction acts generalizing client with
  | nil => exact start
  | cons act rest ih => exact ih _ (act_whole start act)

end UsbHost
