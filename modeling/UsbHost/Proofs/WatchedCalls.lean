import UsbHost.Proofs.CallAccounts
import UsbHost.Proofs.Watched

/-!
# Native calls without faults

Where the next address is a word, no reference count is at its limit and the journal has room, a
watched call does exactly what the call does. Each place that is watched is safe for a reason of its
own: a guard before it, the number of references there can be, or the shape of what was built.
-/

set_option autoImplicit false

namespace UsbHost

variable {α β : Type} {bus : Bus} {device handle : Address} {function : NativeFunction}

/-- One more address can be handed out. -/
def Bus.Spacious (bus : Bus) : Prop := bus.nextAddress + addressStride < 2 ^ 64

/-- Every device can have one more reference. -/
def Bus.Countable (bus : Bus) : Prop := ∀ attached ∈ bus.devices, attached.references + 1 < 2 ^ 64

/-- One more entry fits into the journal. -/
def Bus.Writable (bus : Bus) : Prop := bus.journal.length < Watched.vectorLimit

/-- Only one handle is known by an address. -/
theorem Bus.Coherent.modifyHandle_congr {opened : OpenHandle}
    {first second : OpenHandle → OpenHandle} (coherent : bus.Coherent)
    (found : bus.handle? handle = some opened) (same : first opened = second opened) :
    bus.modifyHandle handle first = bus.modifyHandle handle second := by
  have handles : (bus.modifyHandle handle first).handles =
      (bus.modifyHandle handle second).handles := by
    refine List.map_congr_left fun other member => ?_
    split
    · next named =>
      have unique := coherent.handle?_eq_some_iff.mpr ⟨member, named⟩
      obtain rfl := Option.some.inj (unique.symm.trans found)
      exact same
    · rfl
  unfold modifyHandle at handles ⊢
  dsimp only at handles
  rw [handles]

namespace Watched

/-! ## Arithmetic and accesses -/

theorem add_ok {width a b : Nat} (fits : a + b < 2 ^ width) : add width a b = .ok (a + b) :=
  if_pos fits

theorem multiply_ok {width a b : Nat} (fits : a * b < 2 ^ width) :
    multiply width a b = .ok (a * b) :=
  if_pos fits

theorem subtract_ok {a b : Nat} (enough : b ≤ a) : subtract a b = .ok (a - b) :=
  if_pos enough

theorem upTo_ok {items : List α} {count : Nat} (inside : count ≤ items.length) :
    upTo items count = .ok (items.take count) :=
  if_pos inside

theorem remove_ok {items : List α} {position : Nat} (inside : position < items.length) :
    remove items position = .ok (items.eraseIdx position) :=
  if_pos inside

theorem copyTo_ok {buffer items : List α} (fits : items.length ≤ buffer.length) :
    copyTo buffer items = .ok (items ++ buffer.drop items.length) :=
  if_pos fits

theorem room_ok (writable : bus.Writable) : room bus.journal = .ok () :=
  if_pos writable

theorem ok_bind (value : α) (next : α → Watched β) :
    ((.ok value : Watched α) >>= next) = next value :=
  rfl

theorem mapM_ok {items : List α} {watched : α → Watched β} {plain : α → β}
    (safe : ∀ item ∈ items, watched item = .ok (plain item)) :
    items.mapM watched = .ok (items.map plain) := by
  induction items with
  | nil => rfl
  | cons item rest ih =>
    obtain ⟨first, others⟩ := List.forall_mem_cons.mp safe
    rw [List.mapM_cons, first, ok_bind, ih others, ok_bind]
    rfl

/-- Removing an item by the place where it was found takes its first occurrence out. -/
theorem remove_found [BEq α] [LawfulBEq α] {items : List α} {item : α} {position : Nat}
    (found : items.idxOf? item = some position) :
    remove items position = .ok (items.erase item) := by
  obtain ⟨inside, -⟩ := List.idxOf?_eq_some_iff.mp found
  rw [remove_ok inside, List.erase_eq_eraseIdx, found]

/-! ## The parts of native calls -/

theorem allocate_eq (spacious : bus.Spacious) : allocate bus = .ok bus.allocate := by
  rw [allocate, add_ok spacious, ok_bind]
  rfl

theorem modifyReferences_eq {change : Nat → Watched Nat} {plain : Nat → Nat}
    (safe : ∀ attached ∈ bus.devices, attached.id = device →
      change attached.references = .ok (plain attached.references)) :
    modifyReferences bus device change = .ok (bus.modifyReferences device plain) := by
  have devices : (bus.devices.mapM fun attached =>
      if attached.id = device then countReferences attached change else .ok attached) =
        .ok (bus.modifyReferences device plain).devices := by
    refine mapM_ok fun attached member => ?_
    split
    · next named =>
      rw [countReferences, safe attached member named, ok_bind]
      rfl
    · rfl
  rw [modifyReferences, devices, ok_bind]
  rfl

theorem takeReference_eq (countable : bus.Countable) (device : Address) :
    modifyReferences bus device (add 64 · 1) = .ok (bus.modifyReferences device (· + 1)) :=
  modifyReferences_eq fun attached member _ => add_ok (countable attached member)

/-- A reference is given back only where there is one. -/
theorem giveBack_eq (coherent : bus.Coherent) (function : NativeFunction) (device : Address) :
    giveBack bus function device = .ok (bus.giveBack function device) := by
  unfold giveBack Bus.giveBack
  cases found : bus.device? device with
  | none => rfl
  | some attached =>
    dsimp only
    split
    · rfl
    · next positive =>
      refine modifyReferences_eq fun other member named => ?_
      have same : some other = some attached :=
        (coherent.device?_eq_some_iff.mpr ⟨member, named⟩).symm.trans found
      obtain rfl := Option.some.inj same
      exact subtract_ok (Nat.one_le_iff_ne_zero.mpr positive)

theorem giveBackAll_eq (coherent : bus.Coherent) (function : NativeFunction)
    (entries : List Address) :
    entries.foldlM (fun bus device => giveBack bus function device) bus =
      .ok (entries.foldl (fun bus device => bus.giveBack function device) bus) := by
  induction entries generalizing bus with
  | nil => rfl
  | cons device rest ih =>
    rw [List.foldlM_cons, giveBack_eq coherent, ok_bind, List.foldl_cons]
    exact ih ((bus.giveBack_debited function device).coherent coherent)

theorem answering_eq {argument injected : Option Int} {body : Watched (Reply α × Bus)}
    {plain : Reply α × Bus} (writable : bus.Writable)
    (safe : injected = none → body = .ok plain) :
    answering bus function argument injected body =
      .ok (bus.answering function argument injected plain) := by
  unfold answering
  rw [room_ok writable, ok_bind]
  cases injected with
  | some code => rfl
  | none =>
    dsimp only
    rw [safe rfl, ok_bind]
    rfl

theorem withDevice_eq {body : AttachedDevice → Watched (Reply α × Bus)}
    {plain : AttachedDevice → Reply α × Bus}
    (safe : ∀ attached, bus.device? device = some attached → body attached = .ok (plain attached)) :
    withDevice bus function device body = .ok (bus.withDevice function device plain) := by
  unfold withDevice Bus.withDevice
  cases found : bus.device? device with
  | none => rfl
  | some attached => exact safe attached found

theorem withHandle_eq {body : OpenHandle → Watched (Reply α × Bus)}
    {plain : OpenHandle → Reply α × Bus}
    (safe : ∀ opened, bus.handle? handle = some opened → body opened = .ok (plain opened)) :
    withHandle bus function handle body = .ok (bus.withHandle function handle plain) := by
  unfold withHandle Bus.withHandle
  cases found : bus.handle? handle with
  | none => rfl
  | some opened => exact safe opened found

theorem addHandle_eq (spacious : bus.Spacious) (countable : bus.Countable) (device : Address) :
    addHandle bus device = .ok (bus.addHandle device) := by
  have still : (bus.modifyReferences device (· + 1)).Spacious := spacious
  rw [addHandle, takeReference_eq countable, ok_bind, allocate_eq still, ok_bind]
  rfl

/-! ## Native calls -/

theorem initLibrary_eq (writable : bus.Writable) (spacious : bus.Spacious) :
    initLibrary bus = .ok bus.initLibrary := by
  refine answering_eq writable fun _ => ?_
  rw [allocate_eq spacious, ok_bind]
  rfl

theorem getDeviceList_eq (writable : bus.Writable) (countable : bus.Countable) :
    getDeviceList bus = .ok bus.getDeviceList := by
  refine answering_eq writable fun _ => ?_
  have counted : (bus.devices.mapM fun attached => countReferences attached (add 64 · 1)) =
      .ok (bus.devices.map fun attached =>
        { attached with references := attached.references + 1 }) := by
    refine mapM_ok fun attached member => ?_
    rw [countReferences, add_ok (countable attached member), ok_bind]
    rfl
  dsimp only
  rw [counted, ok_bind]
  rfl

/-- The null behind the entries makes the memory of an array as long as what is freed. -/
theorem freeDeviceList_eq (writable : bus.Writable) (coherent : bus.Coherent)
    (spacious : ∀ array ∈ bus.lists, array.entries.length + 1 < 2 ^ 64) (list : BlockRef)
    (unref : Int) : freeDeviceList list unref bus = .ok (bus.freeDeviceList list unref) := by
  unfold freeDeviceList Bus.freeDeviceList
  rw [room_ok writable, ok_bind]
  cases found : bus.array? list with
  | none =>
    have missing : (bus.record .freeDeviceList (some unref)).array? list = none := found
    dsimp only
    rw [missing]
    rfl
  | some array =>
    have present : (bus.record .freeDeviceList (some unref)).array? list = some array := found
    have member : array ∈ bus.lists := List.mem_of_find?_eq_some found
    have whole : array.entries.length + 1 ≤ (array.entries ++ [0]).length := by simp
    have entries : ((array.entries ++ [0]).take (array.entries.length + 1)).take
        array.entries.length = array.entries := by
      rw [List.take_take, Nat.min_eq_left (Nat.le_succ _), List.take_left]
    dsimp only
    rw [present]
    dsimp only
    rw [add_ok (spacious array member), ok_bind, upTo_ok whole, ok_bind, entries]
    split
    · rfl
    · have recorded := (bus.steady_journal
        (bus.record .freeDeviceList (some unref)).journal).coherent coherent
      exact giveBackAll_eq (recorded.dropArray array.block) ..

theorem refDevice_eq (writable : bus.Writable) (countable : bus.Countable) (device : Address) :
    refDevice device bus = .ok (bus.refDevice device) := by
  have still : (bus.record .refDevice).Countable := countable
  unfold refDevice Bus.refDevice
  rw [room_ok writable, ok_bind]
  dsimp only
  cases (bus.record .refDevice).device? device with
  | none => rfl
  | some attached => exact takeReference_eq still device

theorem unrefDevice_eq (writable : bus.Writable) (coherent : bus.Coherent) (device : Address) :
    unrefDevice device bus = .ok (bus.unrefDevice device) := by
  have recorded := (bus.steady_journal (bus.record .unrefDevice).journal).coherent coherent
  rw [unrefDevice, room_ok writable, ok_bind]
  exact giveBack_eq recorded .unrefDevice device

theorem openDevice_eq (writable : bus.Writable) (spacious : bus.Spacious)
    (countable : bus.Countable) (device : Address) :
    openDevice device bus = .ok (bus.openDevice device) := by
  refine answering_eq writable fun _ => withDevice_eq fun attached _ => ?_
  split
  · rfl
  · exact addHandle_eq spacious countable device

theorem wrapSystemDevice_eq (writable : bus.Writable) (spacious : bus.Spacious)
    (countable : bus.Countable) (systemHandle : Int) :
    wrapSystemDevice systemHandle bus = .ok (bus.wrapSystemDevice systemHandle) := by
  refine answering_eq writable fun _ => ?_
  cases bus.devices.find? fun attached => 0 < attached.references with
  | none => rfl
  | some attached => exact addHandle_eq spacious countable attached.id

theorem closeHandle_eq (writable : bus.Writable) (coherent : bus.Coherent) (handle : Address) :
    closeHandle handle bus = .ok (bus.closeHandle handle) := by
  have recorded := (bus.steady_journal (bus.record .closeHandle).journal).coherent coherent
  unfold closeHandle Bus.closeHandle
  rw [room_ok writable, ok_bind]
  dsimp only
  cases (bus.record .closeHandle).handle? handle with
  | none => rfl
  | some opened => exact giveBack_eq (recorded.dropHandle handle) .closeHandle opened.device

/-- A record with as many interfaces as there can be is still far from the largest size. -/
theorem buildRecord_eq (value interfaces : UInt8) :
    buildRecord value interfaces = .ok (.build value interfaces) := by
  have few : interfaces.toNat < 256 := interfaces.toNat_lt
  have product : 9 * interfaces.toNat < 2 ^ 16 := by omega
  have sum : 9 + 9 * interfaces.toNat < 2 ^ 16 := by omega
  have total : UInt16.ofNat (9 + 9 * interfaces.toNat) = 9 + 9 * interfaces.toUInt16 := by
    simp [UInt16.ofNat_add, UInt16.ofNat_mul]
  rw [buildRecord, multiply_ok product, ok_bind, add_ok sum, ok_bind, total]
  rfl

/-- An index below the number of configurations, which is a byte itself, is not the last byte. -/
theorem getConfigDescriptor_eq (writable : bus.Writable) (device : Address) (index : UInt8) :
    getConfigDescriptor device index bus = .ok (bus.getConfigDescriptor device index) := by
  refine answering_eq writable fun _ => withDevice_eq fun attached _ => ?_
  split
  · rfl
  · next below =>
    have last : attached.info.configurations.toNat < 2 ^ 8 :=
      attached.info.configurations.toNat_lt
    have less : index.toNat < attached.info.configurations.toNat :=
      UInt8.lt_iff_toNat_lt.mp (UInt8.not_le.mp below)
    have fits : index.toNat + 1 < 2 ^ 8 := Nat.lt_of_le_of_lt less last
    have value : UInt8.ofNat (index.toNat + 1) = index + 1 := by
      simp [UInt8.ofNat_add]
    rw [add_ok fits, ok_bind, value, buildRecord_eq, ok_bind]
    rfl

theorem releaseInterface_eq (writable : bus.Writable) (coherent : bus.Coherent)
    (handle : Address) (interface : Int) :
    releaseInterface handle interface bus = .ok (bus.releaseInterface handle interface) := by
  refine answering_eq writable fun _ => withHandle_eq fun opened found => ?_
  cases position : opened.claimed.idxOf? interface with
  | none =>
    have unclaimed : interface ∉ opened.claimed := List.idxOf?_eq_none_iff.mp position
    rw [if_neg unclaimed]
  | some position' =>
    have claimed : interface ∈ opened.claimed :=
      List.isSome_idxOf?.mp (Option.isSome_iff_exists.mpr ⟨_, position⟩)
    have change : (bus.modifyHandle handle fun other =>
        { other with claimed := opened.claimed.erase interface }) =
          bus.modifyHandle handle fun other =>
            { other with claimed := other.claimed.erase interface } :=
      coherent.modifyHandle_congr found rfl
    dsimp only
    rw [remove_found position, ok_bind, if_pos claimed, change]
    rfl

/-- The ports are written only if the buffer is as long as the caller says. -/
theorem getPortNumbers_eq (writable : bus.Writable) (device : Address) (capacity : Int) :
    getPortNumbers device capacity bus = .ok (bus.getPortNumbers device capacity) := by
  refine answering_eq writable fun _ => withDevice_eq fun attached _ => ?_
  dsimp only
  split
  · rfl
  · next fits =>
    have inside : attached.info.ports.length ≤
        (List.replicate capacity.toNat (0 : UInt8)).length := by
      rw [List.length_replicate]
      exact Nat.not_lt.mp fits
    rw [copyTo_ok inside, ok_bind]
    rfl

/-! ## Plugging in -/

theorem attach_eq (spacious : bus.Spacious) (few : bus.devices.length + 1 < 2 ^ 64)
    (info : DeviceInfo) : attach bus info = .ok (bus.attach info) := by
  have address : automaticAddress bus info = .ok (bus.automaticAddress info) := by
    unfold automaticAddress Bus.automaticAddress
    split
    · rw [add_ok few, ok_bind]
      rfl
    · rfl
  rw [attach, allocate_eq spacious, ok_bind, address]
  rfl

end Watched

end UsbHost
