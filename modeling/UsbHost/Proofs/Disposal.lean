import UsbHost.Proofs.Operations
import UsbHost.Session.Resource

/-!
# Giving resources back

The native call that a title asks for gives back what the title stands for, and nothing else.
Dropping a resource makes this call once; a handle releases its interfaces before.
-/

set_option autoImplicit false

namespace UsbHost

variable {bus : Bus} {world : World} {returned : List Address} {titles : List Title}

namespace Bus

theorem array?_block {array : DeviceArray} (orderly : bus.Orderly) (member : array ∈ bus.lists) :
    bus.array? (.block array.block) = some array := by
  have same : (fun other : DeviceArray => BlockRef.block other.block == .block array.block) =
      fun other => other.block == array.block := by
    funext other
    rw [Bool.eq_iff_iff, beq_iff_eq, beq_iff_eq, BlockRef.block.injEq]
  rw [array?, same]
  exact (Keyed.find?_eq_some_iff orderly.lists.nodup).mpr ⟨member, rfl⟩

theorem Backs.exitLibrary {raw : Address} (backs : bus.Backs returned (.context raw :: titles)) :
    (bus.exitLibrary raw).Backs returned titles := by
  have alive : raw ∈ bus.contexts := backs.context_mem List.mem_cons_self
  unfold Bus.exitLibrary
  dsimp only [record]
  rw [if_pos alive]
  exact backs.dropContext.journal _

theorem Backs.freeDeviceList {array : DeviceArray}
    (backs : bus.Backs returned (.array array :: titles)) :
    (bus.freeDeviceList (.block array.block) 1).Backs returned titles := by
  have found : (bus.record .freeDeviceList (some 1)).array? (.block array.block) = some array :=
    array?_block (backs.journal _).orderly (backs.array_mem List.mem_cons_self)
  unfold Bus.freeDeviceList
  dsimp only
  rw [found]
  dsimp only
  rw [if_neg (by decide)]
  exact (backs.dropArray.journal _).giveBackAll _

theorem Backs.unrefDevice {device : Address}
    (backs : bus.Backs returned (.reference device :: titles)) :
    (bus.unrefDevice device).Backs returned titles :=
  (backs.journal _).giveBack _

theorem Backs.closeHandle {raw : Address} (backs : bus.Backs returned (.handle raw :: titles)) :
    (bus.closeHandle raw).Backs returned titles := by
  obtain ⟨opened, found⟩ := backs.handle_open List.mem_cons_self
  have recorded : (bus.record .closeHandle).handle? raw = some opened := found
  unfold Bus.closeHandle
  dsimp only
  rw [recorded]
  exact ((backs.unseatHandle found).journal _).giveBack _

theorem Backs.freeConfigDescriptor {ref : BlockRef}
    (backs : bus.Backs returned (.record ref :: titles)) :
    (bus.freeConfigDescriptor ref).Backs returned titles := by
  obtain ⟨serial, alive, rfl⟩ := backs.record_mem List.mem_cons_self
  have found : (bus.record .freeConfigDescriptor).descriptors.any
      (fun other => BlockRef.block other == .block serial) :=
    List.any_eq_true.mpr ⟨serial, alive, by simp⟩
  unfold Bus.freeConfigDescriptor
  dsimp only
  rw [if_pos found]
  exact backs.dropRecord.journal _

/-- The call that a title asks for gives the title back. -/
theorem Backs.giveUp {title : Title} (backs : bus.Backs returned (title :: titles)) :
    (title.returnCall.perform bus).2.Backs returned titles := by
  cases title with
  | context raw => exact backs.exitLibrary
  | array array => exact backs.freeDeviceList
  | reference device => exact backs.unrefDevice
  | handle raw => exact backs.closeHandle
  | record ref => exact backs.freeConfigDescriptor

/-! ## Releasing the interfaces of a handle -/

theorem handle?_seat (bus : Bus) (raw : Address) : (bus.handle? raw).map OpenHandle.seat =
    (bus.handles.map OpenHandle.seat).find? fun seat => seat.1 == raw := by
  simp [handle?, List.find?_map, Function.comp_def, OpenHandle.seat]

theorem Steady.handle? {before after : Bus} (steady : before.Steady after) {raw : Address}
    {opened : OpenHandle} (found : before.handle? raw = some opened) :
    ∃ later, after.handle? raw = some later ∧ later.seat = opened.seat := by
  have same : (after.handle? raw).map OpenHandle.seat = some opened.seat := by
    rw [handle?_seat, steady.seats, ← handle?_seat, found]
    rfl
  exact Option.map_eq_some_iff.mp same

end Bus

namespace Handle

theorem releaseOne_steady (library : Library) {raw : Address} {opened : OpenHandle}
    (found : world.bus.handle? raw = some opened) (interface : UInt8) :
    world.bus.Steady (releaseOne library raw world interface).bus :=
  (Bus.releaseInterface_releases found (nativeInterface interface)).steady

theorem releaseAll_steady (library : Library) {raw : Address} {opened : OpenHandle}
    (found : world.bus.handle? raw = some opened) (interfaces : List UInt8) :
    world.bus.Steady (interfaces.foldl (releaseOne library raw) world).bus := by
  induction interfaces generalizing world opened with
  | nil => exact .refl _
  | cons interface rest ih =>
    have first := releaseOne_steady library found interface
    obtain ⟨later, foundLater, -⟩ := first.handle? found
    exact first.trans (ih foundLater)

theorem releaseClaimed_steady {handle : Handle} (isOpen : handle.Open world.bus) :
    world.bus.Steady (handle.releaseClaimed world).bus := by
  unfold releaseClaimed
  split
  · next raw owned =>
    obtain ⟨opened, found⟩ := isOpen raw owned
    exact releaseAll_steady handle.library found handle.claimed
  · exact .refl _

end Handle

/-! ## Dropping resources -/

theorem Owner.dispose_backs {α : Type} {title : α → Title} {disposal : α → World → World}
    (owner : Owner α)
    (gives : ∀ raw, (disposal raw world).bus = ((title raw).returnCall.perform world.bus).2)
    (backs : world.bus.Backs returned ((owner.raw.map title).toList ++ titles)) :
    (owner.dispose disposal world).bus.Backs returned titles := by
  unfold Owner.dispose
  cases owned : owner.raw with
  | none =>
    rw [owned] at backs
    exact backs
  | some raw =>
    rw [owned] at backs
    dsimp only
    rw [gives raw]
    exact backs.giveUp

/-- Dropping a resource gives its title back and nothing else. -/
theorem Resource.drop_backs (resource : Resource)
    (backs : world.bus.Backs returned (resource.title?.toList ++ titles)) :
    (resource.drop world).bus.Backs returned titles := by
  cases resource with
  | context value => exact value.owner.dispose_backs (fun _ => rfl) backs
  | list value =>
    unfold Resource.drop DeviceList.drop
    dsimp only
    simp only [title?] at backs
    cases owned : value.array with
    | none =>
      rw [owned] at backs
      exact backs
    | some array =>
      rw [owned] at backs
      exact Bus.Backs.giveUp backs
  | device value => exact value.owner.dispose_backs (fun _ => rfl) backs
  | handle value =>
    have isOpen : value.Open world.bus := fun raw owned =>
      backs.handle_open (by simp [title?, owned])
    exact value.owner.dispose_backs (fun _ => rfl)
      (backs.steady (Handle.releaseClaimed_steady isOpen))
  | descriptor value => exact value.owner.dispose_backs (fun _ => rfl) backs

end UsbHost
