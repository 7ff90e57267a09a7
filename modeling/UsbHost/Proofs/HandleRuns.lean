import UsbHost.Proofs.Attachments
import UsbHost.Proofs.Persistence

/-!
# What native calls do to handles

A native call leaves every handle alone but the one that it is about. Nothing ever changes the
device behind a handle, and only a call that configures a handle changes its configuration. A
handle that comes up has an address that was not handed out before and is not configured.
-/

set_option autoImplicit false

namespace UsbHost

namespace Bus

variable {α : Type} {bus before middle after : Bus} {reach : Reach} {raw : Address}

/-- Where a handle comes from that is open after native calls within the reach. -/
inductive Origin (reach : Reach) (before : Bus) (raw : Address) (later : OpenHandle) : Prop where
  | older {opened : OpenHandle} : before.handle? raw = some opened →
      later.device = opened.device →
      (¬ reach.configured raw → later.configuration = opened.configuration) →
      Origin reach before raw later
  | newer : before.nextAddress ≤ raw → (¬ reach.configured raw → later.configuration = 0) →
      Origin reach before raw later

/-- What native calls within the reach leave of the handles. -/
structure Heeds (reach : Reach) (before after : Bus) : Prop where
  addresses : before.nextAddress ≤ after.nextAddress
  spared : ∀ raw opened, ¬ reach.touched raw → ¬ reach.configured raw →
    before.handle? raw = some opened → after.handle? raw = some opened
  origin : ∀ raw later, after.handle? raw = some later → Origin reach before raw later

namespace Heeds

theorem of_handles (handles : after.handles = before.handles)
    (addresses : before.nextAddress ≤ after.nextAddress) : before.Heeds reach after where
  addresses := addresses
  spared := by
    intro raw opened _ _ found
    rwa [handle?, handles]
  origin := by
    intro raw later found
    rw [handle?, handles] at found
    exact .older found rfl fun _ => rfl

theorem refl (bus : Bus) : bus.Heeds reach bus :=
  of_handles rfl (Nat.le_refl _)

theorem trans (first : before.Heeds reach middle) (second : middle.Heeds reach after) :
    before.Heeds reach after where
  addresses := Nat.le_trans first.addresses second.addresses
  spared := fun raw opened untouched unconfigured found =>
    second.spared raw opened untouched unconfigured
      (first.spared raw opened untouched unconfigured found)
  origin := by
    intro raw later found
    cases second.origin raw later found with
    | newer fresh initial => exact .newer (Nat.le_trans first.addresses fresh) initial
    | @older opened foundMiddle device kept =>
      cases first.origin raw opened foundMiddle with
      | older foundBefore deviceBefore keptBefore =>
        exact .older foundBefore (device.trans deviceBefore) fun unconfigured =>
          (kept unconfigured).trans (keptBefore unconfigured)
      | newer fresh initial =>
        exact .newer fresh fun unconfigured => (kept unconfigured).trans (initial unconfigured)

end Heeds

/-- Whatever changes beside handles and addresses is of no account. -/
theorem aside_heeds (bus : Bus) {nextBlock : Nat} {contexts : List Address}
    {devices : List AttachedDevice} {lists : List DeviceArray} {descriptors : List Nat}
    {journal : List JournalEntry} {misuse : List Misuse}
    {failures : List (NativeFunction × Int)} {releaseFailures : List (Int × Int)} :
    bus.Heeds reach
      { bus with nextBlock, contexts, devices, lists, descriptors, journal, misuse, failures,
                 releaseFailures } :=
  .of_handles rfl (Nat.le_refl _)

/-- An open handle has an address that was handed out. -/
theorem Orderly.handle?_lt {opened : OpenHandle} (orderly : bus.Orderly)
    (found : bus.handle? raw = some opened) : raw < bus.nextAddress := by
  obtain ⟨member, rfl⟩ := orderly.handle?_eq_some_iff.mp found
  exact orderly.handles.below _ (List.mem_map_of_mem member)

/-! ## Changes of the handles -/

theorem addHandle_heeds (bus : Bus) (device : Address) :
    bus.Heeds reach (bus.addHandle device).2 where
  addresses := Nat.le_of_lt bus.lt_nextAddress
  spared := by
    intro raw opened _ _ found
    rw [handle?] at found ⊢
    change (bus.handles ++ [_]).find? _ = _
    rw [List.find?_append, found]
    rfl
  origin := by
    intro raw later found
    change (bus.handles ++ [OpenHandle.mk bus.nextAddress device [] 0]).find? _ = _ at found
    rw [List.find?_append, Option.or_eq_some_iff] at found
    rcases found with old | ⟨-, new⟩
    · exact .older old rfl fun _ => rfl
    · rw [List.find?_singleton] at new
      split at new
      · next same =>
        obtain rfl := Option.some.inj new
        exact .newer (Nat.le_of_eq (beq_iff_eq.mp same)) fun _ => rfl
      · contradiction

theorem modifyHandle_heeds (bus : Bus) {change : OpenHandle → OpenHandle}
    (same : ∀ opened, (change opened).id = opened.id ∧ (change opened).device = opened.device)
    (within : reach.touched raw ∧ (∀ opened, (change opened).configuration = opened.configuration) ∨
      reach.configured raw) :
    bus.Heeds reach (bus.modifyHandle raw change) where
  addresses := Nat.le_refl _
  spared := by
    intro other opened untouched unconfigured found
    have different : opened.id ≠ raw := by
      rintro rfl
      rw [← handle?_id found] at untouched unconfigured
      exact within.elim (fun touched => untouched touched.1) unconfigured
    rw [modifyHandle_handle? bus raw other fun opened => (same opened).1, found, Option.map_some,
      if_neg different]
  origin := by
    intro other later found
    rw [modifyHandle_handle? bus raw other fun opened => (same opened).1,
      Option.map_eq_some_iff] at found
    obtain ⟨opened, found, rfl⟩ := found
    split
    · next own =>
      refine .older found (same opened).2 fun unconfigured => ?_
      rw [← handle?_id found, own] at unconfigured
      exact (within.resolve_right unconfigured).2 opened
    · exact .older found rfl fun _ => rfl

theorem removeHandle_heeds (bus : Bus) (touched : reach.touched raw) :
    bus.Heeds reach { bus with handles := bus.handles.filter (·.id ≠ raw) } where
  addresses := Nat.le_refl _
  spared := by
    intro other opened untouched _ found
    have different : other ≠ raw := by
      rintro rfl
      exact untouched touched
    rw [removeHandle_handle? bus different, found]
  origin := by
    intro other later found
    by_cases same : other = raw
    · subst same
      have member := List.mem_of_find?_eq_some found
      exact absurd (handle?_id found) (by simpa using (List.mem_filter.mp member).2)
    · rw [removeHandle_handle? bus same] at found
      exact .older found rfl fun _ => rfl

/-! ## Calls -/

/-- What is said of a call that answers an injected code is said of what it does otherwise. -/
theorem answering_heeds {function : NativeFunction} {argument injected : Option Int}
    {body : Reply α × Bus} (otherwise : bus.Heeds reach body.2) :
    bus.Heeds reach (bus.answering function argument injected body).2 := by
  rcases bus.answering_cases function argument injected body with ⟨code, -, same⟩ | ⟨-, same⟩
  · rw [same]
    exact Bus.aside_heeds _
  · rw [same]
    exact otherwise.trans (Bus.aside_heeds _)

theorem withDevice_heeds {function : NativeFunction} {device : Address}
    {body : AttachedDevice → Reply α × Bus}
    (known : ∀ attached, bus.Heeds reach (body attached).2) :
    bus.Heeds reach (bus.withDevice function device body).2 := by
  unfold withDevice
  split
  · exact known _
  · exact Bus.aside_heeds _

theorem withHandle_heeds {function : NativeFunction} {body : OpenHandle → Reply α × Bus}
    (open_ : ∀ opened, bus.Heeds reach (body opened).2) :
    bus.Heeds reach (bus.withHandle function raw body).2 := by
  unfold withHandle
  split
  · exact open_ _
  · exact Bus.aside_heeds _

theorem giveBack_heeds (bus : Bus) (function : NativeFunction) (device : Address) :
    bus.Heeds reach (bus.giveBack function device) := by
  unfold giveBack
  split
  · exact Bus.aside_heeds _
  · split <;> exact Bus.aside_heeds _

theorem giveBackAll_heeds (bus : Bus) (function : NativeFunction) (entries : List Address) :
    bus.Heeds reach (entries.foldl (fun bus device => bus.giveBack function device) bus) := by
  induction entries generalizing bus with
  | nil => exact .refl bus
  | cons device rest ih => exact (bus.giveBack_heeds function device).trans (ih _)

theorem freeDeviceList_heeds (bus : Bus) (list : BlockRef) (unref : Int) :
    bus.Heeds reach (bus.freeDeviceList list unref) := by
  unfold freeDeviceList
  dsimp only
  split
  · exact Bus.aside_heeds _
  · split
    · exact Bus.aside_heeds _
    · exact (Bus.aside_heeds _).trans (giveBackAll_heeds ..)

theorem closeHandle_heeds (bus : Bus) (touched : reach.touched raw) :
    bus.Heeds reach (bus.closeHandle raw) := by
  unfold closeHandle
  dsimp only
  split
  · exact Bus.aside_heeds _
  · exact ((bus.removeHandle_heeds touched).trans (Bus.aside_heeds _)).trans (giveBack_heeds ..)

theorem readByte_heeds (bus : Bus) (function : NativeFunction) (device : Address)
    (byte : DeviceInfo → UInt8) : bus.Heeds reach (bus.readByte function device byte).2 := by
  unfold readByte
  dsimp only
  split <;> exact Bus.aside_heeds _

/-- Every native call heeds what it may change. -/
theorem perform_heeds {call : NativeCall} (within : call.Within reach) (bus : Bus) :
    bus.Heeds reach (call.after bus) := by
  cases call with
  | initLibrary =>
    exact answering_heeds (.of_handles rfl (Nat.le_of_lt bus.lt_nextAddress))
  | exitLibrary context =>
    change bus.Heeds reach (bus.exitLibrary context)
    unfold exitLibrary
    dsimp only
    split <;> exact Bus.aside_heeds _
  | getDeviceList context => exact answering_heeds (Bus.aside_heeds _)
  | freeDeviceList list unref => exact freeDeviceList_heeds ..
  | refDevice device =>
    change bus.Heeds reach (bus.refDevice device)
    unfold refDevice
    dsimp only
    split <;> exact Bus.aside_heeds _
  | unrefDevice device =>
    exact (Bus.aside_heeds _).trans (giveBack_heeds (bus.record .unrefDevice) ..)
  | openDevice device =>
    refine answering_heeds (withDevice_heeds fun attached => ?_)
    split
    · exact .refl bus
    · exact bus.addHandle_heeds device
  | wrapSystemDevice context systemHandle =>
    refine answering_heeds ?_
    split
    · exact bus.addHandle_heeds _
    · exact .refl bus
  | closeHandle handle => exact bus.closeHandle_heeds within
  | getDevice handle =>
    change bus.Heeds reach (bus.getDevice handle).2
    unfold getDevice
    dsimp only
    split <;> exact Bus.aside_heeds _
  | getDeviceDescriptor device =>
    exact answering_heeds (withDevice_heeds fun _ => .refl bus)
  | getConfigDescriptor device index =>
    refine answering_heeds (withDevice_heeds fun attached => ?_)
    split
    · exact .refl bus
    · exact Bus.aside_heeds _
  | freeConfigDescriptor descriptor =>
    change bus.Heeds reach (bus.freeConfigDescriptor descriptor)
    unfold freeConfigDescriptor
    dsimp only
    split <;> exact Bus.aside_heeds _
  | claimInterface handle interface =>
    refine answering_heeds (withHandle_heeds fun opened => ?_)
    split
    · exact .refl bus
    · split
      · exact .refl bus
      · exact bus.modifyHandle_heeds (fun _ => ⟨rfl, rfl⟩) (.inl ⟨within, fun _ => rfl⟩)
  | releaseInterface handle interface =>
    refine answering_heeds (withHandle_heeds fun opened => ?_)
    split
    · exact bus.modifyHandle_heeds (fun _ => ⟨rfl, rfl⟩) (.inl ⟨within, fun _ => rfl⟩)
    · exact .refl bus
  | setConfiguration handle value =>
    exact answering_heeds (withHandle_heeds fun _ =>
      bus.modifyHandle_heeds (fun _ => ⟨rfl, rfl⟩) (.inr within))
  | getConfiguration handle =>
    exact answering_heeds (withHandle_heeds fun _ => .refl bus)
  | setAutoDetach handle enable =>
    exact answering_heeds (withHandle_heeds fun _ => .refl bus)
  | getBusNumber device | getDeviceAddress device => exact readByte_heeds ..
  | getPortNumbers device capacity =>
    refine answering_heeds (withDevice_heeds fun attached => ?_)
    dsimp only
    split <;> exact .refl bus

theorem Called.heeds (called : bus.Called reach after) : bus.Heeds reach after := by
  induction called with
  | refl => exact .refl bus
  | tail _ made heeds =>
    obtain ⟨call, within, rfl⟩ := made
    exact heeds.trans (perform_heeds within _)

theorem attachMany_heeds (bus : Bus) (info : DeviceInfo) (count : Nat) :
    bus.Heeds reach (bus.attachMany info count).2 := by
  have attach_heeds (bus : Bus) : bus.Heeds reach (bus.attach info).2 :=
    .of_handles rfl (Nat.le_of_lt bus.lt_nextAddress)
  induction count generalizing bus with
  | zero => exact .refl bus
  | succ count ih =>
    cases count with
    | zero => exact attach_heeds bus
    | succ count => exact (attach_heeds bus).trans (ih _)

end Bus

/-! ## Runs -/

variable {reach : Bus.Reach}

theorem ControlStep.heeds (step : ControlStep) (session : Session) :
    session.world.bus.Heeds reach (step.perform session).2.world.bus := by
  cases step with
  | attach info => exact .of_handles rfl (Nat.le_of_lt session.world.bus.lt_nextAddress)
  | attachMany count info => exact Bus.attachMany_heeds ..
  | fail function code =>
    unfold perform
    dsimp only
    split
    · exact Bus.aside_heeds _
    · exact .refl _
  | failReleaseOf interface code | clearFailures => exact Bus.aside_heeds _
  | references device | claims handle | countCalls function | callArguments function
  | misuseCount | logCount level | logMessages level => exact .refl _

theorem Session.step_heeds (session : Session) (step : Step)
    (anything : ∀ raw, reach.touched raw)
    (configured : step.configures → ∀ raw, reach.configured raw) :
    session.world.bus.Heeds reach (session.step step).2.world.bus := by
  cases step with
  | control step => exact step.heeds session
  | context | list | device | handle | descriptor | native | drop | move | inspect =>
    exact (session.step_called rfl anything configured).heeds

/-- Whether an act may configure a handle. -/
def Act.configures : Act → Bool
  | .step made => made.configures
  | .giveBack _ | .returnReference _ | .choose _ => false

namespace Client

/-- An act that may do with handles whatever the reach allows. -/
theorem act_heeds (client : Client) (act : Act) (anything : ∀ raw, reach.touched raw)
    (configured : act.configures → ∀ raw, reach.configured raw) :
    client.session.world.bus.Heeds reach (client.act act).session.world.bus := by
  cases act with
  | step step => exact client.session.step_heeds step anything configured
  | giveBack title =>
    have within : title.returnCall.Within reach := by
      cases title with
      | handle raw => exact anything raw
      | context raw | array value | reference device | record ref => trivial
    exact Bus.perform_heeds within client.session.world.bus
  | returnReference device =>
    have within : (NativeCall.unrefDevice device).Within reach := trivial
    exact Bus.perform_heeds within client.session.world.bus
  | choose library => exact .refl _

/-- Over any run, whether it keeps to the rules or not, no handle changes its device. -/
theorem run_heeds (client : Client) (acts : List Act) :
    client.session.world.bus.Heeds .any (client.run acts).session.world.bus := by
  induction acts generalizing client with
  | nil => exact .refl _
  | cons act rest ih =>
    exact (client.act_heeds act (fun _ => trivial) fun _ _ => trivial).trans (ih (client.act act))

end Client

end UsbHost
