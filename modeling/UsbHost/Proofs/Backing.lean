import UsbHost.Proofs.Keyed
import UsbHost.Proofs.Title

/-!
# What backs a title

The invariant that ties the bus to the titles that are out: every exclusive title stands for
something alive and the other way round, and the references to each device are those of the bus
itself, of the titles, and of the open handles. A native call either turns titles into others or
leaves them alone, and it is stated here once what each of these turns keeps.
-/

set_option autoImplicit false

namespace UsbHost

/-- Distinct numbers that were handed out before `next`. -/
structure Numbered (ids : List Nat) (next : Nat) : Prop where
  nodup : ids.Nodup
  below : ∀ id ∈ ids, id < next

namespace Numbered

variable {ids kept : List Nat} {next later : Nat}

theorem mono (numbered : Numbered ids next) (le : next ≤ later) : Numbered ids later :=
  ⟨numbered.nodup, fun id member => Nat.lt_of_lt_of_le (numbered.below id member) le⟩

theorem sublist (numbered : Numbered ids next) (shorter : kept.Sublist ids) :
    Numbered kept next :=
  ⟨numbered.nodup.sublist shorter, fun id member => numbered.below id (shorter.subset member)⟩

theorem push (numbered : Numbered ids next) (lt : next < later) :
    Numbered (ids ++ [next]) later := by
  have fresh : next ∉ ids := fun member => Nat.lt_irrefl _ (numbered.below next member)
  refine ⟨List.nodup_append.mpr ⟨numbered.nodup, by simp, ?_⟩, ?_⟩
  · intro id member other single same
    exact fresh (List.mem_singleton.mp single ▸ same ▸ member)
  · intro id member
    rcases List.mem_append.mp member with old | new
    · exact Nat.lt_trans (numbered.below id old) lt
    · exact List.mem_singleton.mp new ▸ lt

end Numbered

/-- What stays the same about a handle for as long as it is open. -/
def OpenHandle.seat (opened : OpenHandle) : Address × Address :=
  (opened.id, opened.device)

/-- What stays the same about a handle unless something is claimed or released through it. -/
def OpenHandle.tenure (opened : OpenHandle) : Address × Address × List Int :=
  (opened.id, opened.device, opened.claimed)

/-- What never changes about a device. -/
def AttachedDevice.identity (attached : AttachedDevice) : Address × DeviceInfo :=
  (attached.id, attached.info)

namespace Bus

/-- Every address and every memory block was handed out once, and no device is at null. -/
structure Orderly (bus : Bus) : Prop where
  contexts : Numbered bus.contexts bus.nextAddress
  devices : Numbered (bus.devices.map AttachedDevice.id) bus.nextAddress
  handles : Numbered (bus.handles.map OpenHandle.id) bus.nextAddress
  lists : Numbered (bus.lists.map DeviceArray.block) bus.nextBlock
  descriptors : Numbered bus.descriptors bus.nextBlock
  entries : ∀ array ∈ bus.lists, array.entries.Nodup
  started : 0 < bus.nextAddress
  nonNull : ∀ device, bus.Knows device → device ≠ 0

/-- The reference of the bus itself, until it is given back. -/
def ownShare (returned : List Address) (device : Address) : Nat :=
  if device ∈ returned then 0 else 1

/-- The titles that are out are exactly those that the bus answers for. The bus's own references
to the devices in `returned` were given back. -/
structure Backs (bus : Bus) (returned : List Address) (titles : List Title) : Prop where
  orderly : bus.Orderly
  owned : (titles.filter Title.isExclusive).Perm bus.exclusiveTitles
  references : ∀ attached ∈ bus.devices, attached.references =
    ownShare returned attached.id + titles.countP (Title.holds attached.id) +
      bus.handlesOn attached.id
  known : ∀ title ∈ titles, ∀ device, title.holds device → bus.Knows device
  bound : ∀ opened ∈ bus.handles, bus.Knows opened.device
  returnedKnown : ∀ device ∈ returned, bus.Knows device
  misuse : bus.misuse = []

/-- Nothing that titles speak of differs. -/
structure Steady (before after : Bus) : Prop where
  nextAddress : after.nextAddress = before.nextAddress
  nextBlock : after.nextBlock = before.nextBlock
  contexts : after.contexts = before.contexts
  devices : after.devices = before.devices
  lists : after.lists = before.lists
  descriptors : after.descriptors = before.descriptors
  misuse : after.misuse = before.misuse
  seats : after.handles.map OpenHandle.seat = before.handles.map OpenHandle.seat

/-! ## Looking things up -/

theorem Orderly.device?_eq_some_iff {bus : Bus} (orderly : bus.Orderly) {device : Address}
    {attached : AttachedDevice} :
    bus.device? device = some attached ↔ attached ∈ bus.devices ∧ attached.id = device :=
  Keyed.find?_eq_some_iff orderly.devices.nodup

theorem Orderly.handle?_eq_some_iff {bus : Bus} (orderly : bus.Orderly) {handle : Address}
    {opened : OpenHandle} :
    bus.handle? handle = some opened ↔ opened ∈ bus.handles ∧ opened.id = handle :=
  Keyed.find?_eq_some_iff orderly.handles.nodup

theorem Knows.device? {bus : Bus} {device : Address} (known : bus.Knows device) :
    ∃ attached, bus.device? device = some attached :=
  Option.isSome_iff_exists.mp (Keyed.find?_isSome_iff.mpr known)

theorem knows_of_mem {bus : Bus} {attached : AttachedDevice} (member : attached ∈ bus.devices) :
    bus.Knows attached.id :=
  List.mem_map_of_mem member

@[simp] theorem modifyReferences_ids (bus : Bus) (device : Address) (change : Nat → Nat) :
    (bus.modifyReferences device change).devices.map AttachedDevice.id =
      bus.devices.map AttachedDevice.id :=
  Keyed.map_update bus.devices fun _ => rfl

@[simp] theorem knows_modifyReferences {bus : Bus} {device other : Address}
    {change : Nat → Nat} :
    (bus.modifyReferences device change).Knows other ↔ bus.Knows other := by
  simp [Knows]

theorem mem_modifyReferences {bus : Bus} {device : Address} {change : Nat → Nat}
    {attached : AttachedDevice} (member : attached ∈ (bus.modifyReferences device change).devices) :
    ∃ old ∈ bus.devices, attached.id = old.id ∧
      attached.references = if old.id = device then change old.references else old.references := by
  obtain ⟨old, inside, rfl⟩ := List.mem_map.mp member
  refine ⟨old, inside, ?_⟩
  split <;> simp_all

/-! ## Keeping the titles -/

theorem exclusiveTitles_eq (bus : Bus) : bus.exclusiveTitles =
    bus.contexts.map .context ++ bus.lists.map .array ++
      (bus.handles.map OpenHandle.seat).map (fun seat => .handle seat.1) ++
      bus.descriptors.map (fun serial => .record (.block serial)) := by
  simp [exclusiveTitles, OpenHandle.seat, Function.comp_def]

theorem handlesOn_eq (bus : Bus) (device : Address) : bus.handlesOn device =
    (bus.handles.map OpenHandle.seat).countP fun seat => seat.2 == device := by
  simp [handlesOn, List.countP_map, OpenHandle.seat, Function.comp_def]

theorem map_id_eq (bus : Bus) : bus.handles.map OpenHandle.id =
    (bus.handles.map OpenHandle.seat).map Prod.fst := by
  simp [OpenHandle.seat, Function.comp_def]

theorem bound_iff (bus : Bus) {known : Address → Prop} :
    (∀ opened ∈ bus.handles, known opened.device) ↔
      ∀ seat ∈ bus.handles.map OpenHandle.seat, known seat.2 := by
  simp [OpenHandle.seat]

theorem Steady.orderly {before after : Bus} (steady : before.Steady after)
    (orderly : before.Orderly) : after.Orderly where
  contexts := by simpa only [steady.contexts, steady.nextAddress] using orderly.contexts
  devices := by simpa only [steady.devices, steady.nextAddress] using orderly.devices
  handles := by
    simpa only [map_id_eq, steady.seats, steady.nextAddress] using orderly.handles
  lists := by simpa only [steady.lists, steady.nextBlock] using orderly.lists
  descriptors := by simpa only [steady.descriptors, steady.nextBlock] using orderly.descriptors
  entries := by simpa only [steady.lists] using orderly.entries
  started := by simpa only [steady.nextAddress] using orderly.started
  nonNull := by simpa only [Knows, steady.devices] using orderly.nonNull

variable {bus before after : Bus} {returned : List Address} {titles : List Title}

theorem Backs.steady (backs : before.Backs returned titles) (steady : before.Steady after) :
    after.Backs returned titles where
  orderly := steady.orderly backs.orderly
  owned := by
    simpa only [exclusiveTitles_eq, steady.contexts, steady.lists, steady.seats,
      steady.descriptors] using backs.owned
  references := by
    simpa only [handlesOn_eq, steady.devices, steady.seats] using backs.references
  known := by simpa only [Knows, steady.devices] using backs.known
  bound := by
    have bound := backs.bound
    rw [bound_iff] at bound ⊢
    simpa only [Knows, steady.devices, steady.seats] using bound
  returnedKnown := by simpa only [Knows, steady.devices] using backs.returnedKnown
  misuse := by rw [steady.misuse, backs.misuse]

theorem orderly_nothing : Orderly {} where
  contexts := ⟨List.nodup_nil, List.forall_mem_nil _⟩
  devices := ⟨List.nodup_nil, List.forall_mem_nil _⟩
  handles := ⟨List.nodup_nil, List.forall_mem_nil _⟩
  lists := ⟨List.nodup_nil, List.forall_mem_nil _⟩
  descriptors := ⟨List.nodup_nil, List.forall_mem_nil _⟩
  entries := List.forall_mem_nil _
  started := by decide
  nonNull := fun _ known => absurd known List.not_mem_nil

theorem backs_nothing : Backs {} [] [] where
  orderly := orderly_nothing
  owned := .refl _
  references := List.forall_mem_nil _
  known := List.forall_mem_nil _
  bound := List.forall_mem_nil _
  returnedKnown := List.forall_mem_nil _
  misuse := rfl

theorem Backs.perm {others : List Title} (backs : bus.Backs returned titles)
    (perm : titles.Perm others) : bus.Backs returned others :=
  { backs with
    owned := (perm.symm.filter _).trans backs.owned
    references := fun attached member => by
      rw [backs.references attached member, perm.countP_eq]
    known := fun title member => backs.known title (perm.mem_iff.mpr member) }

/-! ## Titles of one kind -/

/-- The titles of one exclusive kind are those of what is alive of that kind. -/
theorem Backs.filterMap_perm {α : Type} (backs : bus.Backs returned titles)
    (select : Title → Option α) (noReference : ∀ device, select (.reference device) = none) :
    (bus.exclusiveTitles.filterMap select).Perm (titles.filterMap select) := by
  have same : (titles.filter Title.isExclusive).filterMap select = titles.filterMap select := by
    rw [List.filterMap_filter]
    refine List.filterMap_congr fun title _ => ?_
    cases title with
    | reference device => simp [Title.isExclusive, noReference]
    | context raw | array value | handle raw | record ref => simp [Title.isExclusive]
  rw [← same]
  exact (backs.owned.filterMap select).symm

theorem Backs.contexts_perm (backs : bus.Backs returned titles) :
    bus.contexts.Perm (titles.filterMap Title.context?) := by
  have perm := backs.filterMap_perm Title.context? fun _ => rfl
  simpa [exclusiveTitles, List.filterMap_map, Function.comp_def, Title.context?] using perm

theorem Backs.lists_perm (backs : bus.Backs returned titles) :
    bus.lists.Perm (titles.filterMap Title.array?) := by
  have perm := backs.filterMap_perm Title.array? fun _ => rfl
  simpa [exclusiveTitles, List.filterMap_map, Function.comp_def, Title.array?] using perm

theorem Backs.handles_perm (backs : bus.Backs returned titles) :
    (bus.handles.map OpenHandle.id).Perm (titles.filterMap Title.handle?) := by
  have perm := backs.filterMap_perm Title.handle? fun _ => rfl
  simpa [exclusiveTitles, List.filterMap_map, Function.comp_def, Title.handle?] using perm

theorem Backs.descriptors_perm (backs : bus.Backs returned titles) :
    (bus.descriptors.map BlockRef.block).Perm (titles.filterMap Title.record?) := by
  have perm := backs.filterMap_perm Title.record? fun _ => rfl
  simpa [exclusiveTitles, List.filterMap_map, Function.comp_def, Title.record?] using perm

theorem Backs.handle_once {raw : Address} (backs : bus.Backs returned (.handle raw :: titles)) :
    .handle raw ∉ titles := by
  intro member
  have distinct : (raw :: titles.filterMap Title.handle?).Nodup :=
    backs.handles_perm.nodup backs.orderly.handles.nodup
  exact (List.nodup_cons.mp distinct).1 (List.mem_filterMap.mpr ⟨_, member, rfl⟩)

end Bus

end UsbHost
