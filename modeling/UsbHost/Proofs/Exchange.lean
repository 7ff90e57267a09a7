import UsbHost.Proofs.Backing

/-!
# Exchanging titles

Every change of the bus is an exchange of titles: a reference that is taken is a new title, an
opened handle stands in for a reference, an array for one reference to each of its entries, and
the other way round when they are given back.
-/

set_option autoImplicit false

namespace UsbHost.Bus

variable {bus : Bus} {returned : List Address} {titles : List Title} {device raw : Address}

/-! ## What a title stands for -/

theorem Backs.alive (backs : bus.Backs returned titles) {title : Title} (member : title ∈ titles)
    (exclusive : title.isExclusive) : title ∈ bus.exclusiveTitles :=
  backs.owned.mem_iff.mp (List.mem_filter.mpr ⟨member, exclusive⟩)

theorem Backs.context_mem (backs : bus.Backs returned titles) (member : .context raw ∈ titles) :
    raw ∈ bus.contexts := by
  simpa [exclusiveTitles] using backs.alive member rfl

theorem Backs.array_mem (backs : bus.Backs returned titles) {array : DeviceArray}
    (member : .array array ∈ titles) : array ∈ bus.lists := by
  simpa [exclusiveTitles] using backs.alive member rfl

theorem Backs.handle_open (backs : bus.Backs returned titles) (member : .handle raw ∈ titles) :
    ∃ opened, bus.handle? raw = some opened := by
  have alive : ∃ opened ∈ bus.handles, opened.id = raw := by
    simpa [exclusiveTitles] using backs.alive member rfl
  obtain ⟨opened, inside, same⟩ := alive
  exact ⟨opened, backs.orderly.handle?_eq_some_iff.mpr ⟨inside, same⟩⟩

theorem Backs.record_mem (backs : bus.Backs returned titles) {ref : BlockRef}
    (member : .record ref ∈ titles) : ∃ serial ∈ bus.descriptors, ref = .block serial := by
  simpa [exclusiveTitles, eq_comm] using backs.alive member rfl

theorem Backs.reference_known (backs : bus.Backs returned titles)
    (member : .reference device ∈ titles) : bus.Knows device :=
  backs.known _ member device (by simp)

theorem Backs.entry_known (backs : bus.Backs returned titles) {array : DeviceArray}
    (member : .array array ∈ titles) (entry : device ∈ array.entries) : bus.Knows device :=
  backs.known _ member device (by simpa using entry)

/-- An address that was not handed out yet is nobody's. -/
theorem Orderly.not_knows_next (orderly : bus.Orderly) : ¬ bus.Knows bus.nextAddress :=
  fun known => Nat.lt_irrefl _ (orderly.devices.below _ known)

/-! ## References -/

theorem Orderly.modifyReferences (orderly : bus.Orderly) (change : Nat → Nat) :
    (bus.modifyReferences device change).Orderly :=
  { orderly with
    devices := by rw [modifyReferences_ids]; exact orderly.devices
    nonNull := fun other known => orderly.nonNull other (knows_modifyReferences.mp known) }

theorem Backs.takeReference (backs : bus.Backs returned titles) (known : bus.Knows device) :
    (bus.modifyReferences device (· + 1)).Backs returned (.reference device :: titles) where
  orderly := backs.orderly.modifyReferences _
  owned := backs.owned
  references := by
    intro attached member
    obtain ⟨old, inside, sameId, count⟩ := mem_modifyReferences member
    have before := backs.references old inside
    have open_ : (bus.modifyReferences device (· + 1)).handlesOn old.id = bus.handlesOn old.id :=
      rfl
    rw [sameId, count, open_, List.countP_cons]
    by_cases own : old.id = device
    · simp [own] at before ⊢
      omega
    · simp [own, Ne.symm own, before]
  known := by
    intro title member other holds
    rw [knows_modifyReferences]
    rcases List.mem_cons.mp member with rfl | older
    · simp only [Title.holds_reference, beq_iff_eq] at holds
      exact holds ▸ known
    · exact backs.known title older other holds
  bound := fun opened member => knows_modifyReferences.mpr (backs.bound opened member)
  returnedKnown := fun other member => knows_modifyReferences.mpr (backs.returnedKnown other member)
  misuse := backs.misuse

/-- A reference that a title stands for can be given back: this is no misuse. -/
theorem Backs.giveBack_eq (backs : bus.Backs returned titles)
    (member : .reference device ∈ titles) (function : NativeFunction) :
    bus.giveBack function device = bus.modifyReferences device (· - 1) := by
  obtain ⟨attached, found⟩ := (backs.reference_known member).device?
  obtain ⟨inside, rfl⟩ := backs.orderly.device?_eq_some_iff.mp found
  have counted : 0 < titles.countP (Title.holds attached.id) :=
    List.countP_pos_iff.mpr ⟨_, member, by simp⟩
  have positive : attached.references ≠ 0 := by
    rw [backs.references attached inside]
    omega
  simp [giveBack, found, positive]

theorem Backs.giveBack (backs : bus.Backs returned (.reference device :: titles))
    (function : NativeFunction) : (bus.giveBack function device).Backs returned titles := by
  rw [backs.giveBack_eq List.mem_cons_self]
  refine
    { orderly := backs.orderly.modifyReferences _
      owned := backs.owned
      references := ?_
      known := fun title member other holds =>
        knows_modifyReferences.mpr (backs.known title (.tail _ member) other holds)
      bound := fun opened member => knows_modifyReferences.mpr (backs.bound opened member)
      returnedKnown := fun other member =>
        knows_modifyReferences.mpr (backs.returnedKnown other member)
      misuse := backs.misuse }
  intro attached member
  obtain ⟨old, inside, sameId, count⟩ := mem_modifyReferences member
  have before := backs.references old inside
  have open_ : (bus.modifyReferences device (· - 1)).handlesOn old.id = bus.handlesOn old.id := rfl
  rw [List.countP_cons] at before
  rw [sameId, count, open_]
  by_cases own : old.id = device
  · simp [own] at before ⊢
    omega
  · simpa [own, Ne.symm own] using before

/-- The bus may hand its own reference to a device out once. -/
theorem Backs.handOut (backs : bus.Backs returned titles) (known : bus.Knows device)
    (kept : device ∉ returned) :
    bus.Backs (device :: returned) (.reference device :: titles) where
  orderly := backs.orderly
  owned := backs.owned
  references := by
    intro attached member
    have before := backs.references attached member
    rw [List.countP_cons]
    by_cases own : attached.id = device
    · subst own
      simp [ownShare, kept] at before ⊢
      omega
    · simpa [ownShare, own, Ne.symm own] using before
  known := by
    intro title member other holds
    exact knows_modifyReferences.mp ((backs.takeReference known).known title member other holds)
  bound := backs.bound
  returnedKnown := by
    intro other member
    rcases List.mem_cons.mp member with rfl | older
    · exact known
    · exact backs.returnedKnown other older
  misuse := backs.misuse

/-! ## Exclusive titles -/

theorem exclusiveTitles_contexts (bus : Bus) {contexts others : List Address}
    (perm : contexts.Perm (raw :: others)) :
    { bus with contexts }.exclusiveTitles.Perm
      (.context raw :: { bus with contexts := others }.exclusiveTitles) :=
  (((perm.map Title.context).append_right _).append_right _).append_right _

theorem exclusiveTitles_lists (bus : Bus) {lists others : List DeviceArray} {array : DeviceArray}
    (perm : lists.Perm (array :: others)) :
    { bus with lists }.exclusiveTitles.Perm
      (.array array :: { bus with lists := others }.exclusiveTitles) := by
  have middle := ((perm.map Title.array).append_left (bus.contexts.map .context)).trans
    List.perm_middle
  exact (middle.append_right _).append_right _

theorem exclusiveTitles_handles (bus : Bus) {handles others : List OpenHandle}
    {opened : OpenHandle} (perm : handles.Perm (opened :: others)) :
    { bus with handles }.exclusiveTitles.Perm
      (.handle opened.id :: { bus with handles := others }.exclusiveTitles) := by
  have middle := ((perm.map fun opened => Title.handle opened.id).append_left
    (bus.contexts.map .context ++ bus.lists.map .array)).trans List.perm_middle
  exact middle.append_right _

theorem exclusiveTitles_descriptors (bus : Bus) {descriptors others : List Nat} {serial : Nat}
    (perm : descriptors.Perm (serial :: others)) :
    { bus with descriptors }.exclusiveTitles.Perm
      (.record (.block serial) :: { bus with descriptors := others }.exclusiveTitles) :=
  ((perm.map fun serial => Title.record (.block serial)).append_left _).trans List.perm_middle

theorem lt_nextAddress (bus : Bus) : bus.nextAddress < bus.nextAddress + addressStride :=
  Nat.lt_add_of_pos_right (by decide)

theorem Orderly.laterAddress (orderly : bus.Orderly) :
    { bus with nextAddress := bus.nextAddress + addressStride }.Orderly :=
  { orderly with
    contexts := orderly.contexts.mono (Nat.le_of_lt bus.lt_nextAddress)
    devices := orderly.devices.mono (Nat.le_of_lt bus.lt_nextAddress)
    handles := orderly.handles.mono (Nat.le_of_lt bus.lt_nextAddress)
    started := Nat.lt_trans orderly.started bus.lt_nextAddress }

/-! ## Contexts -/

theorem Backs.addContext (backs : bus.Backs returned titles) :
    { bus with
      nextAddress := bus.nextAddress + addressStride
      contexts := bus.contexts ++ [bus.nextAddress] }.Backs returned
      (.context bus.nextAddress :: titles) where
  orderly :=
    { backs.orderly.laterAddress with
      contexts := backs.orderly.contexts.push bus.lt_nextAddress }
  owned := (backs.owned.cons _).trans
    (exclusiveTitles_contexts bus (List.perm_append_singleton _ _)).symm
  references := by
    intro attached member
    rw [List.countP_cons_of_neg (by simp)]
    exact backs.references attached member
  known := by
    intro title member other holds
    rcases List.mem_cons.mp member with rfl | older
    · simp at holds
    · exact backs.known title older other holds
  bound := backs.bound
  returnedKnown := backs.returnedKnown
  misuse := backs.misuse

theorem Backs.dropContext (backs : bus.Backs returned (.context raw :: titles)) :
    { bus with contexts := bus.contexts.filter (· ≠ raw) }.Backs returned titles where
  orderly :=
    { backs.orderly with
      contexts := backs.orderly.contexts.sublist List.filter_sublist }
  owned := by
    have unique : (bus.contexts.map id).Nodup := by simpa using backs.orderly.contexts.nodup
    have taken := Keyed.perm_cons_filter unique (backs.context_mem List.mem_cons_self)
    exact (backs.owned.trans (exclusiveTitles_contexts bus taken)).cons_inv
  references := by
    intro attached member
    have before := backs.references attached member
    rw [List.countP_cons_of_neg (by simp)] at before
    exact before
  known := fun title member => backs.known title (.tail _ member)
  bound := backs.bound
  returnedKnown := backs.returnedKnown
  misuse := backs.misuse

/-! ## Handles -/

/-- A handle that is opened keeps the reference that was taken for it. -/
theorem Backs.seatHandle (backs : bus.Backs returned (.reference device :: titles)) :
    { bus with
      nextAddress := bus.nextAddress + addressStride
      handles := bus.handles ++ [OpenHandle.mk bus.nextAddress device [] 0] }.Backs returned
      (.handle bus.nextAddress :: titles) where
  orderly :=
    { backs.orderly.laterAddress with
      handles := by simpa using backs.orderly.handles.push bus.lt_nextAddress }
  owned := by
    have added := List.perm_append_singleton (OpenHandle.mk bus.nextAddress device [] 0) bus.handles
    exact (backs.owned.cons _).trans (exclusiveTitles_handles bus added).symm
  references := by
    intro attached member
    have before := backs.references attached member
    simp only [handlesOn, List.countP_append, List.countP_cons, List.countP_nil] at before ⊢
    by_cases same : device = attached.id
    · simp [same] at before ⊢
      omega
    · simpa [same] using before
  known := by
    intro title member other holds
    rcases List.mem_cons.mp member with rfl | older
    · simp at holds
    · exact backs.known title (.tail _ older) other holds
  bound := by
    intro opened member
    rcases List.mem_append.mp member with old | new
    · exact backs.bound opened old
    · rw [List.mem_singleton.mp new]
      exact backs.reference_known List.mem_cons_self
  returnedKnown := backs.returnedKnown
  misuse := backs.misuse

/-- A handle that is closed leaves the reference that was taken for it. -/
theorem Backs.unseatHandle (backs : bus.Backs returned (.handle raw :: titles))
    {opened : OpenHandle} (found : bus.handle? raw = some opened) :
    { bus with handles := bus.handles.filter (·.id ≠ raw) }.Backs returned
      (.reference opened.device :: titles) := by
  obtain ⟨inside, rfl⟩ := backs.orderly.handle?_eq_some_iff.mp found
  have taken := Keyed.perm_cons_filter backs.orderly.handles.nodup inside
  refine
    { orderly :=
        { backs.orderly with
          handles := backs.orderly.handles.sublist (List.filter_sublist.map _) }
      owned := (backs.owned.trans (exclusiveTitles_handles bus taken)).cons_inv
      references := ?_
      known := ?_
      bound := fun opened member => backs.bound opened (List.mem_filter.mp member).1
      returnedKnown := backs.returnedKnown
      misuse := backs.misuse }
  · intro attached member
    have before := backs.references attached member
    simp only [handlesOn, taken.countP_eq, List.countP_cons] at before ⊢
    by_cases same : opened.device = attached.id
    · simp [same] at before ⊢
      omega
    · simpa [same] using before
  · intro title member other holds
    rcases List.mem_cons.mp member with rfl | older
    · simp only [Title.holds_reference, beq_iff_eq] at holds
      exact holds ▸ backs.bound opened inside
    · exact backs.known title (.tail _ older) other holds

/-! ## Device arrays -/

def enumeration (bus : Bus) : DeviceArray :=
  { block := bus.nextBlock, entries := bus.devices.map AttachedDevice.id }

/-- The bus with one more reference to every device and a new array of all of them. -/
def enumerated (bus : Bus) : Bus :=
  { bus with
    devices := bus.devices.map fun attached =>
      { attached with references := attached.references + 1 }
    lists := bus.lists ++ [bus.enumeration]
    nextBlock := bus.nextBlock + 1 }

theorem enumerated_ids (bus : Bus) :
    bus.enumerated.devices.map AttachedDevice.id = bus.devices.map AttachedDevice.id := by
  simp [enumerated, Function.comp_def]

theorem knows_enumerated : bus.enumerated.Knows device ↔ bus.Knows device := by
  rw [Knows, enumerated_ids, Knows]

theorem Orderly.enumerated (orderly : bus.Orderly) : bus.enumerated.Orderly :=
  { orderly with
    devices := by
      rw [enumerated_ids]
      exact orderly.devices
    lists := by simpa [Bus.enumerated, enumeration] using orderly.lists.push (Nat.lt_succ_self _)
    descriptors := orderly.descriptors.mono (Nat.le_succ _)
    entries := by
      intro array member
      rcases List.mem_append.mp member with old | new
      · exact orderly.entries array old
      · rw [List.mem_singleton.mp new]
        exact orderly.devices.nodup
    nonNull := fun device known => orderly.nonNull device (knows_enumerated.mp known) }

theorem Backs.enumerated (backs : bus.Backs returned titles) :
    bus.enumerated.Backs returned (.array bus.enumeration :: titles) where
  orderly := backs.orderly.enumerated
  owned := (backs.owned.cons _).trans
    (exclusiveTitles_lists bus (List.perm_append_singleton _ _)).symm
  references := by
    intro attached member
    obtain ⟨old, inside, rfl⟩ := List.mem_map.mp member
    have before := backs.references old inside
    have listed : old.id ∈ bus.enumeration.entries := List.mem_map_of_mem inside
    rw [List.countP_cons_of_pos (by simpa using listed)]
    simp only [handlesOn, Bus.enumerated] at before ⊢
    omega
  known := by
    intro title member device holds
    rw [knows_enumerated]
    rcases List.mem_cons.mp member with rfl | older
    · simpa [Knows, enumeration] using holds
    · exact backs.known title older device holds
  bound := fun opened member => knows_enumerated.mpr (backs.bound opened member)
  returnedKnown := fun device member => knows_enumerated.mpr (backs.returnedKnown device member)
  misuse := backs.misuse

theorem countP_holds_entries {entries : List Address} (nodup : entries.Nodup) (device : Address) :
    (entries.map Title.reference).countP (Title.holds device) =
      if entries.contains device then 1 else 0 := by
  have counted : (entries.map Title.reference).countP (Title.holds device) =
      entries.count device := by
    simp [List.countP_map, Function.comp_def, List.count]
  rw [counted, nodup.count]
  simp

/-- An array that is freed leaves one reference to each of its entries. -/
theorem Backs.dropArray {array : DeviceArray}
    (backs : bus.Backs returned (.array array :: titles)) :
    { bus with lists := bus.lists.filter (·.block ≠ array.block) }.Backs returned
      (array.entries.map Title.reference ++ titles) := by
  have inside := backs.array_mem List.mem_cons_self
  have taken := Keyed.perm_cons_filter backs.orderly.lists.nodup inside
  have noneExclusive : (array.entries.map Title.reference).filter Title.isExclusive = [] := by
    simp [List.filter_eq_nil_iff, Title.isExclusive]
  refine
    { orderly :=
        { backs.orderly with
          lists := backs.orderly.lists.sublist (List.filter_sublist.map _)
          entries := fun array member => backs.orderly.entries array (List.mem_filter.mp member).1 }
      owned := ?_
      references := ?_
      known := ?_
      bound := backs.bound
      returnedKnown := backs.returnedKnown
      misuse := backs.misuse }
  · rw [List.filter_append, noneExclusive, List.nil_append]
    exact (backs.owned.trans (exclusiveTitles_lists bus taken)).cons_inv
  · intro attached member
    have before := backs.references attached member
    rw [List.countP_cons, Title.holds_array] at before
    rw [List.countP_append, countP_holds_entries (backs.orderly.entries array inside)]
    simp only [handlesOn] at before ⊢
    omega
  · intro title member device holds
    rcases List.mem_append.mp member with entry | older
    · obtain ⟨listed, entryMember, rfl⟩ := List.mem_map.mp entry
      simp only [Title.holds_reference, beq_iff_eq] at holds
      exact holds ▸ backs.entry_known List.mem_cons_self entryMember
    · exact backs.known title (.tail _ older) device holds

theorem Backs.giveBackAll {entries : List Address} (function : NativeFunction)
    (backs : bus.Backs returned (entries.map Title.reference ++ titles)) :
    (entries.foldl (fun bus device => bus.giveBack function device) bus).Backs returned titles := by
  induction entries generalizing bus with
  | nil => exact backs
  | cons device rest ih => exact ih (backs.giveBack function)

/-! ## Configuration records -/

theorem Backs.addRecord (backs : bus.Backs returned titles) :
    { bus with
      descriptors := bus.descriptors ++ [bus.nextBlock]
      nextBlock := bus.nextBlock + 1 }.Backs returned
      (.record (.block bus.nextBlock) :: titles) where
  orderly :=
    { backs.orderly with
      lists := backs.orderly.lists.mono (Nat.le_succ _)
      descriptors := backs.orderly.descriptors.push (Nat.lt_succ_self _) }
  owned := (backs.owned.cons _).trans
    (exclusiveTitles_descriptors bus (List.perm_append_singleton _ _)).symm
  references := by
    intro attached member
    rw [List.countP_cons_of_neg (by simp)]
    exact backs.references attached member
  known := by
    intro title member device holds
    rcases List.mem_cons.mp member with rfl | older
    · simp at holds
    · exact backs.known title older device holds
  bound := backs.bound
  returnedKnown := backs.returnedKnown
  misuse := backs.misuse

theorem Backs.dropRecord {ref : BlockRef} (backs : bus.Backs returned (.record ref :: titles)) :
    { bus with
      descriptors := bus.descriptors.filter fun serial => BlockRef.block serial ≠ ref }.Backs
      returned titles where
  orderly :=
    { backs.orderly with
      descriptors := backs.orderly.descriptors.sublist List.filter_sublist }
  owned := by
    obtain ⟨serial, inside, rfl⟩ := backs.record_mem List.mem_cons_self
    have unique : (bus.descriptors.map BlockRef.block).Nodup :=
      backs.orderly.descriptors.nodup.map fun _ _ same => by simpa using same
    have taken := Keyed.perm_cons_filter unique inside
    exact (backs.owned.trans (exclusiveTitles_descriptors bus taken)).cons_inv
  references := by
    intro attached member
    have before := backs.references attached member
    rw [List.countP_cons_of_neg (by simp)] at before
    exact before
  known := fun title member => backs.known title (.tail _ member)
  bound := backs.bound
  returnedKnown := backs.returnedKnown
  misuse := backs.misuse

/-! ## Attaching -/

/-- A new device has one reference, that of the bus itself. -/
theorem Backs.attach (backs : bus.Backs returned titles) (info : DeviceInfo) :
    (bus.attach info).2.Backs returned titles := by
  have unknown := backs.orderly.not_knows_next
  have ids : (bus.attach info).2.devices.map AttachedDevice.id =
      bus.devices.map AttachedDevice.id ++ [bus.nextAddress] := by
    simp [Bus.attach, allocate]
  have knows {device : Address} (known : bus.Knows device) : (bus.attach info).2.Knows device := by
    rw [Knows, ids]
    exact List.mem_append_left _ known
  refine
    { orderly :=
        { backs.orderly.laterAddress with
          devices := by
            rw [ids]
            exact backs.orderly.devices.push bus.lt_nextAddress
          nonNull := ?_ }
      owned := backs.owned
      references := ?_
      known := fun title member device holds => knows (backs.known title member device holds)
      bound := fun opened member => knows (backs.bound opened member)
      returnedKnown := fun device member => knows (backs.returnedKnown device member)
      misuse := backs.misuse }
  · intro device known
    rw [Knows, ids] at known
    rcases List.mem_append.mp known with old | new
    · exact backs.orderly.nonNull device old
    · exact List.mem_singleton.mp new ▸ Nat.ne_of_gt backs.orderly.started
  · intro attached member
    rcases List.mem_append.mp member with old | new
    · exact backs.references attached old
    · rw [List.mem_singleton.mp new]
      have own : ownShare returned bus.nextAddress = 1 :=
        if_neg fun member => unknown (backs.returnedKnown _ member)
      have noTitle : titles.countP (Title.holds bus.nextAddress) = 0 :=
        List.countP_eq_zero.mpr fun title member holds =>
          unknown (backs.known title member _ holds)
      have noHandle : bus.handlesOn bus.nextAddress = 0 :=
        List.countP_eq_zero.mpr fun opened member same =>
          unknown (beq_iff_eq.mp same ▸ backs.bound opened member)
      show 1 = ownShare returned bus.nextAddress + _ + bus.handlesOn bus.nextAddress
      rw [own, noHandle]
      exact (congrArg (1 + · + 0) noTitle).symm

end UsbHost.Bus
