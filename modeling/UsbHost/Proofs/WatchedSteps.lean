import UsbHost.Proofs.Lengths
import UsbHost.Proofs.Stops
import UsbHost.Proofs.WatchedCalls

/-!
# Watched steps of a session

The steps of a session once more, with every access of theirs to a slice or a vector watched: the
entries of a list and the interfaces of a record, which are read through a pointer and a count, the
ports in their buffer, and the claim that is removed by its position. Every other step looks into
nothing but what it was just given.

The index operator is the one access that may go wrong, and it does exactly behind the end of the
entries. An access of any other step is within bounds whatever the native library answered.
-/

set_option autoImplicit false

namespace UsbHost

namespace Watched

variable {α β : Type}

/-! ## Accesses -/

/-- Without an array, or with an empty one, the pointer is not looked at. -/
def entries (list : DeviceList) : Watched (List Address) :=
  match list.array with
  | none => .ok []
  | some array => if list.size = 0 then .ok [] else upTo array.entries list.size

def number (interface : InterfaceRecord) : Watched (Option UInt8) :=
  match interface.settings with
  | none => .ok none
  | some settings =>
    if 0 < interface.count then do
      let number ← element settings 0
      return some number
    else .ok none

def interfaceNumbers (descriptor : ConfigDescriptor) : Watched (List UInt8) :=
  match descriptor.contents.interfaces with
  | none => .ok []
  | some interfaces =>
    if descriptor.interfaceCount = 0 then .ok []
    else do
      let interfaces ← upTo interfaces descriptor.interfaceCount.toNat
      let numbers ← interfaces.mapM number
      return numbers.filterMap id

/-! ## Operations -/

/-- Makes an access with what an operation answers. -/
def accessing (operation : Usb α) (access : α → Watched β) (world : World) :
    Watched (EStateM.Result UsbError World β) :=
  match operation world with
  | .ok value after => do
    let accessed ← access value
    return .ok accessed after
  | .error error after => .ok (.error error after)

def portNumbers (device : Device) : World → Watched (EStateM.Result UsbError World (List UInt8)) :=
  accessing
    (do
      let raw ← device.requireRaw
      device.library.invoke device.library.policies.call "UsbDevice::port_numbers" .getPortNumbers
        (NativeApi.getPortNumbers raw maxPortNumbers))
    fun reply => upTo (writtenBuffer maxPortNumbers reply.out) (Device.reportedPorts reply.code)

def path (device : Device) (world : World) : Watched (EStateM.Result UsbError World String) := do
  match ← portNumbers device world with
  | .ok ports world =>
    let (bus, world) := device.busNumber world
    return .ok (Device.pathText bus ports) world
  | .error error world => return .error error world

def findAmong (library : Library) (sought : String) :
    List Address → World → Watched (Option Device × World)
  | [], world => .ok (none, world)
  | raw :: rest, world => do
    let (device, world) := Device.ofRaw library raw world
    match ← path device world with
    | .ok candidate world =>
      if candidate = sought then return (some device, world)
      else findAmong library sought rest (device.drop world)
    | .error _ world => findAmong library sought rest (device.drop world)

def findByPath (list : DeviceList) (sought : String) (world : World) :
    Watched (Option Device × World) := do
  let entries ← entries list
  findAmong list.library sought entries world

/-- The position of the claim is looked up before the native call is made. -/
def unclaim (handle : Handle) (interface : UInt8) (world : World) :
    Watched (EStateM.Result UsbError World Handle) :=
  match handle.claimed.idxOf? interface with
  | none => .ok (.ok handle world)
  | some position =>
    accessing
      (do
        let raw ← handle.requireRaw
        let _ ← handle.library.invoke handle.library.policies.call
          "DeviceHandle::release_interface" .releaseInterface
          (NativeApi.releaseInterface raw (Handle.nativeInterface interface))
        Usb.debug ⟨.handle, "Released interface " ++ toString interface.toNat ++ " on handle " ++
          Text.hex raw⟩)
      (fun _ => do
        let claimed ← remove handle.claimed position
        return { handle with claimed })
      world

/-! ## Steps -/

def withSlot (session : Session) (slot : Option α) (next : α → Watched Session.Ended) :
    Watched Session.Ended :=
  match slot with
  | some value => next value
  | none => .ok session.noSlot

/-- Ends a step that looks at the entries of a list, if there is one. -/
def looking (session : Session) (name : String) (ended : Session.Ended) : Watched Session.Ended :=
  match session.resources.list? name with
  | some list => do
    let _ ← entries list
    return ended
  | none => .ok ended

def listStep (session : Session) (step : ListStep) : Watched Session.Ended :=
  match step with
  | .enumerate .. => .ok (step.perform session)
  | .look name | .get name _ | .entryAt name _ | .device name .. | .devices name .. =>
    looking session name (step.perform session)
  | .index name position =>
    withSlot session (session.resources.list? name) fun list => do
      let entries ← entries list
      let raw ← element entries position
      return session.answer (.address (some raw))
  | .find name sought target =>
    withSlot session (session.resources.list? name) fun list => do
      let found ← findByPath list sought session.world
      return session.run (fun _ => found) fun device session =>
        match device with
        | some device =>
          (session.store target (.device device)).answer (.address (some device.raw))
        | none => session.answer (.address none)

/-- A list is shown with its entries. -/
def step (session : Session) (step : Step) : Watched Session.Ended :=
  match step with
  | .list step => listStep session step
  | .device (.ports name) =>
    withSlot session (session.resources.device? name) fun device => do
      let ended ← portNumbers device session.world
      return session.perform (fun _ => ended) fun ports session => session.answer (.bytes ports)
  | .device (.path name) =>
    withSlot session (session.resources.device? name) fun device => do
      let ended ← path device session.world
      return session.perform (fun _ => ended) fun path session => session.answer (.text path)
  | .handle (.unclaim name interface) =>
    withSlot session (session.resources.handle? name) fun handle => do
      let ended ← unclaim handle interface session.world
      return HandleStep.onClaims session name handle fun _ => ended
  | .descriptor (.look name) =>
    withSlot session (session.resources.descriptor? name) fun descriptor => do
      let _ ← interfaceNumbers descriptor
      return session.answer (.descriptor descriptor)
  | .inspect .list name _ => looking session name (session.step step)
  | _ => .ok (session.step step)

/-! ## Accesses within bounds -/

variable {list : DeviceList} {session : Session} {world : World}

theorem entries_eq (whole : Resource.Whole (.list list)) : entries list = .ok list.entries := by
  cases whole with
  | list whole =>
    unfold entries DeviceList.entries
    cases present : list.array with
    | none => rfl
    | some array =>
      dsimp only [Option.elim]
      split
      · next empty =>
        rw [empty]
        rfl
      · exact upTo_ok (whole array present)

/-- The interfaces that a record is built with. -/
def builtInterfaces (interfaces : UInt8) : List InterfaceRecord :=
  (List.range interfaces.toNat).map fun n => { settings := some [UInt8.ofNat n], count := 1 }

theorem length_builtInterfaces (interfaces : UInt8) :
    (builtInterfaces interfaces).length = interfaces.toNat := by
  rw [builtInterfaces, List.length_map, List.length_range]

theorem builtNumbers_eq (interfaces : UInt8) :
    (builtInterfaces interfaces).mapM number =
      .ok ((builtInterfaces interfaces).map InterfaceRecord.number?) := by
  refine mapM_ok fun interface member => ?_
  obtain ⟨n, -, rfl⟩ := List.mem_map.mp member
  rfl

theorem interfaceNumbers_eq {descriptor : ConfigDescriptor}
    (whole : Resource.Whole (.descriptor descriptor)) :
    interfaceNumbers descriptor = .ok descriptor.interfaceNumbers := by
  have contents : descriptor.contents = {} ∨ descriptor.contents.Built := by
    cases whole with
    | descriptor built =>
      unfold ConfigDescriptor.contents ConfigDescriptor.record?
      cases owned : descriptor.owner.raw with
      | none => exact .inl rfl
      | some pointer => exact .inr (built pointer owned)
  unfold interfaceNumbers ConfigDescriptor.interfaceNumbers ConfigDescriptor.interfaceCount
  rcases contents with blank | ⟨value, interfaces, built⟩
  · rw [blank]
    rfl
  · rw [built]
    by_cases none : interfaces = 0
    · subst none
      rfl
    · have some : (ConfigRecord.build value interfaces).interfaces =
          some (builtInterfaces interfaces) :=
        if_neg none
      have count : (ConfigRecord.build value interfaces).interfaceCount = interfaces := rfl
      have inside : interfaces.toNat ≤ (builtInterfaces interfaces).length :=
        Nat.le_of_eq (length_builtInterfaces interfaces).symm
      have all : (builtInterfaces interfaces).take interfaces.toNat = builtInterfaces interfaces :=
        List.take_of_length_le (Nat.le_of_eq (length_builtInterfaces interfaces))
      rw [ConfigRecord.interfaceNumbers, some, count]
      dsimp only
      rw [if_neg none, upTo_ok inside, ok_bind, all, builtNumbers_eq, ok_bind,
        List.filterMap_map]
      rfl

/-- What follows on an operation is done with what was found within bounds. -/
theorem accessing_eq {operation : Usb α} {access : α → Watched β} {plain : α → β}
    (safe : ∀ value, access value = .ok (plain value)) (world : World) :
    accessing operation access world =
      .ok ((operation >>= fun value => pure (plain value)) world) := by
  unfold accessing
  simp only [Bind.bind, EStateM.bind]
  cases operation world with
  | ok value after =>
    dsimp only
    rw [safe]
    rfl
  | error error after => rfl

/-- The buffer is never shorter than what is read from it, whatever the code says. -/
theorem portNumbers_eq (device : Device) (world : World) :
    portNumbers device world = .ok (device.portNumbers world) := by
  have inside (reply : Reply (List UInt8)) :
      Device.reportedPorts reply.code ≤ (writtenBuffer maxPortNumbers reply.out).length := by
    have length : (writtenBuffer maxPortNumbers reply.out).length = maxPortNumbers := by
      simp [writtenBuffer]
    rw [length]
    exact Nat.min_le_right ..
  refine (accessing_eq (fun reply => upTo_ok (inside reply)) world).trans ?_
  rw [bind_assoc]
  rfl

theorem path_eq (device : Device) (world : World) :
    path device world = .ok (device.path world) := by
  unfold path Device.path
  rw [portNumbers_eq, ok_bind]
  simp only [Bind.bind, EStateM.bind]
  cases device.portNumbers world with
  | ok ports after => rfl
  | error error after => rfl

theorem findAmong_eq (library : Library) (sought : String) (raws : List Address) (world : World) :
    findAmong library sought raws world = .ok (DeviceList.findAmong library sought raws world) := by
  induction raws generalizing world with
  | nil => rfl
  | cons raw rest ih =>
    unfold findAmong DeviceList.findAmong
    dsimp only
    rw [path_eq, ok_bind]
    cases Device.path _ _ with
    | ok candidate after =>
      dsimp only
      split
      · rfl
      · exact ih _
    | error error after => exact ih _

theorem findByPath_eq (whole : Resource.Whole (.list list)) (sought : String) (world : World) :
    findByPath list sought world = .ok (list.findByPath sought world) := by
  rw [findByPath, entries_eq whole, ok_bind, findAmong_eq]
  rfl

theorem unclaim_eq (handle : Handle) (interface : UInt8) (world : World) :
    unclaim handle interface world = .ok (handle.releaseInterface interface world) := by
  unfold unclaim Handle.releaseInterface
  cases position : handle.claimed.idxOf? interface with
  | none =>
    have unclaimed : interface ∉ handle.claimed := List.idxOf?_eq_none_iff.mp position
    have missing : handle.isClaimed interface = false := by simpa [Handle.isClaimed] using unclaimed
    rw [missing]
    rfl
  | some position' =>
    have claimed : interface ∈ handle.claimed :=
      List.isSome_idxOf?.mp (Option.isSome_iff_exists.mpr ⟨_, position⟩)
    have present : handle.isClaimed interface = true := by simpa [Handle.isClaimed] using claimed
    rw [present]
    have safe : ∀ _ : Unit, (remove handle.claimed position' >>= fun claimed =>
        (pure { handle with claimed } : Watched Handle)) =
          .ok { handle with claimed := handle.claimed.erase interface } := by
      intro _
      rw [remove_found position, ok_bind]
      rfl
    refine (accessing_eq safe world).trans ?_
    simp only [bind_assoc]
    rfl

end Watched

/-! ## Steps within bounds -/

namespace Watched

variable {α : Type} {session : Session} {slot : Option α}

theorem withSlot_eq {next : α → Watched Session.Ended} {plain : α → Session.Ended}
    (safe : ∀ value, slot = some value → next value = .ok (plain value)) :
    withSlot session slot next = .ok (session.withSlot slot plain) := by
  unfold withSlot Session.withSlot
  cases found : slot with
  | none => rfl
  | some value => exact safe value found

theorem withSlot_found {next : α → Watched Session.Ended} {value : α} (found : slot = some value) :
    withSlot session slot next = next value := by
  rw [found]
  rfl

theorem whole_list {list : DeviceList} {name : String} (whole : session.Whole)
    (found : session.resources.list? name = some list) : Resource.Whole (.list list) :=
  whole.found (Resources.list?_eq_some found)

theorem looking_eq (whole : session.Whole) (name : String) (ended : Session.Ended) :
    looking session name ended = .ok ended := by
  unfold looking
  cases found : session.resources.list? name with
  | none => rfl
  | some list =>
    dsimp only
    rw [entries_eq (whole_list whole found), ok_bind]
    rfl

theorem listStep_eq (whole : session.Whole) (step : ListStep)
    (inside : ∀ length index, ¬ session.IndexesBeyond (.list step) length index) :
    listStep session step = .ok (step.perform session) := by
  cases step with
  | enumerate target context => rfl
  | look name | get name position | entryAt name position | device name position target
  | devices name stem backwards => exact looking_eq whole name _
  | index name position =>
    refine withSlot_eq fun list found => ?_
    have below : position < list.entries.length :=
      Nat.not_le.mp fun beyond => inside _ _ ⟨name, list, rfl, found, rfl, beyond⟩
    have present : list.get? position = some list.entries[position] :=
      List.getElem?_eq_getElem below
    have accessed : element list.entries position = .ok list.entries[position] := by
      rw [element, ← DeviceList.get?, present]
    rw [present, entries_eq (whole_list whole found), ok_bind, accessed, ok_bind]
    rfl
  | find name sought target =>
    refine withSlot_eq fun list found => ?_
    rw [findByPath_eq (whole_list whole found), ok_bind]
    rfl

theorem step_eq (whole : session.Whole) (step : Step)
    (inside : ∀ length index, ¬ session.IndexesBeyond step length index) :
    Watched.step session step = .ok (session.step step) := by
  cases step with
  | list step => exact listStep_eq whole step inside
  | device step =>
    cases step with
    | ports name =>
      refine withSlot_eq fun device _ => ?_
      rw [portNumbers_eq, ok_bind]
      rfl
    | path name =>
      refine withSlot_eq fun device _ => ?_
      rw [path_eq, ok_bind]
      rfl
    | _ => rfl
  | handle step =>
    cases step with
    | unclaim name interface =>
      refine withSlot_eq fun handle _ => ?_
      rw [unclaim_eq, ok_bind]
      rfl
    | _ => rfl
  | descriptor step =>
    cases step with
    | look name =>
      refine withSlot_eq fun descriptor found => ?_
      have whole := whole.found (Resources.descriptor?_eq_some found)
      rw [interfaceNumbers_eq whole, ok_bind]
      rfl
    | _ => rfl
  | inspect kind name pretty =>
    cases kind with
    | list => exact looking_eq whole name _
    | _ => rfl
  | _ => rfl

theorem step_faulty {step : Step} {length index : Nat} (whole : session.Whole)
    (beyond : session.IndexesBeyond step length index) :
    Watched.step session step = .error .outOfBounds := by
  obtain ⟨name, list, rfl, found, rfl, beyond⟩ := beyond
  have missing : element list.entries index = .error .outOfBounds := by
    rw [element, List.getElem?_eq_none beyond]
  refine (withSlot_found found).trans ?_
  rw [entries_eq (whole_list whole found), ok_bind, missing]
  rfl

end Watched

end UsbHost
