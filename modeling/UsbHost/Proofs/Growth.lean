import UsbHost.Proofs.OverRelease

/-!
# How fast a bus grows

A native call raises no reference count by more than one and leaves an entry in the journal, and a
configuration record that it writes goes into the next memory block. Addresses are only ever handed
out, never taken back, so how many there are bounds how many there have been at any time before.
-/

set_option autoImplicit false

namespace UsbHost

/-- Whether a call is to make something that has an address. -/
def NativeCall.allocates : NativeCall → Bool
  | initLibrary | openDevice _ | wrapSystemDevice .. => true
  | _ => false

namespace Bus

variable {α : Type} {bus middle after : Bus} {device : Address}

/-! ## How fast references grow -/

/-- No device has gained more than so many references. -/
def Gains (extra : Nat) (bus after : Bus) : Prop :=
  ∀ attached ∈ after.devices, ∃ earlier ∈ bus.devices,
    attached.references ≤ earlier.references + extra

theorem gains_of_devices (extra : Nat) (same : after.devices = bus.devices) :
    bus.Gains extra after := by
  intro attached member
  rw [same] at member
  exact ⟨attached, member, Nat.le_add_right ..⟩

theorem Gains.trans {first second : Nat} (gains : bus.Gains first middle)
    (more : middle.Gains second after) : bus.Gains (first + second) after := by
  intro attached member
  obtain ⟨later, inside, lately⟩ := more attached member
  obtain ⟨earlier, known, before⟩ := gains later inside
  exact ⟨earlier, known, by omega⟩

theorem modifyReferences_gains {extra : Nat} {change : Nat → Nat}
    (grows : ∀ count, change count ≤ count + extra) (bus : Bus) (device : Address) :
    bus.Gains extra (bus.modifyReferences device change) := by
  intro attached member
  obtain ⟨old, inside, -, same⟩ := mem_modifyReferences member
  refine ⟨old, inside, ?_⟩
  rw [same]
  split
  · exact grows old.references
  · exact Nat.le_add_right ..

theorem giveBack_gains (bus : Bus) (function : NativeFunction) (device : Address) :
    bus.Gains 0 (bus.giveBack function device) := by
  unfold giveBack
  split
  · exact gains_of_devices 0 rfl
  · split
    · exact gains_of_devices 0 rfl
    · exact modifyReferences_gains (fun count => Nat.sub_le count 1) bus device

theorem giveBackAll_gains (bus : Bus) (function : NativeFunction) (entries : List Address) :
    bus.Gains 0 (entries.foldl (fun bus device => bus.giveBack function device) bus) := by
  induction entries generalizing bus with
  | nil => exact gains_of_devices 0 rfl
  | cons device rest ih => exact (bus.giveBack_gains function device).trans (ih _)

theorem answering_gains {function : NativeFunction} {argument injected : Option Int}
    {body : Reply α × Bus} (otherwise : bus.Gains 1 body.2) :
    bus.Gains 1 (bus.answering function argument injected body).2 := by
  rcases bus.answering_cases function argument injected body with ⟨code, -, same⟩ | ⟨-, same⟩
  · rw [same]
    exact gains_of_devices 1 rfl
  · rw [same]
    exact otherwise

theorem addHandle_gains (bus : Bus) (device : Address) : bus.Gains 1 (bus.addHandle device).2 :=
  modifyReferences_gains (fun _ => Nat.le_refl _) bus device

theorem withDevice_gains {function : NativeFunction} {body : AttachedDevice → Reply α × Bus}
    (present : ∀ attached, bus.Gains 1 (body attached).2) :
    bus.Gains 1 (bus.withDevice function device body).2 := by
  unfold withDevice
  split
  · exact present _
  · exact gains_of_devices 1 rfl

theorem quiet_gains {call : NativeCall} (quiet : call.isQuiet) (bus : Bus) :
    bus.Gains 1 (call.after bus) := by
  obtain ⟨misuse, -, steady⟩ := quiet_aside quiet bus
  exact gains_of_devices 1 steady.devices

/-- A native call raises no reference count by more than one. -/
theorem perform_gains (bus : Bus) (call : NativeCall) : bus.Gains 1 (call.after bus) := by
  cases call with
  | initLibrary => exact answering_gains (gains_of_devices 1 rfl)
  | exitLibrary context =>
    refine gains_of_devices 1 ?_
    show (bus.exitLibrary context).devices = _
    unfold exitLibrary
    dsimp only
    split <;> rfl
  | getDeviceList context =>
    refine answering_gains fun attached member => ?_
    obtain ⟨earlier, inside, rfl⟩ := List.mem_map.mp member
    exact ⟨earlier, inside, Nat.le_refl _⟩
  | freeDeviceList list unref =>
    show bus.Gains 1 (bus.freeDeviceList list unref)
    unfold freeDeviceList
    dsimp only
    split
    · exact gains_of_devices 1 rfl
    · next array _ =>
      split
      · exact gains_of_devices 1 rfl
      · exact (gains_of_devices 1 rfl).trans (giveBackAll_gains _ .freeDeviceList array.entries)
  | refDevice device =>
    show bus.Gains 1 (bus.refDevice device)
    unfold refDevice
    dsimp only
    split
    · exact modifyReferences_gains (fun _ => Nat.le_refl _) (bus.record .refDevice) device
    · exact gains_of_devices 1 rfl
  | unrefDevice device =>
    have gains := (bus.record .unrefDevice).giveBack_gains .unrefDevice device
    exact (gains_of_devices 1 rfl).trans gains
  | openDevice device =>
    refine answering_gains (withDevice_gains fun attached => ?_)
    split
    · exact gains_of_devices 1 rfl
    · exact bus.addHandle_gains device
  | wrapSystemDevice context systemHandle =>
    refine answering_gains ?_
    split
    · exact bus.addHandle_gains _
    · exact gains_of_devices 1 rfl
  | closeHandle handle =>
    show bus.Gains 1 (bus.closeHandle handle)
    unfold closeHandle
    dsimp only
    split
    · exact gains_of_devices 1 rfl
    · next opened _ => exact (gains_of_devices 1 rfl).trans (giveBack_gains _ _ opened.device)
  | getConfigDescriptor device index =>
    refine answering_gains (withDevice_gains fun attached => ?_)
    split
    · exact gains_of_devices 1 rfl
    · exact gains_of_devices 1 rfl
  | freeConfigDescriptor descriptor =>
    refine gains_of_devices 1 ?_
    show (bus.freeConfigDescriptor descriptor).devices = _
    unfold freeConfigDescriptor
    dsimp only
    split <;> rfl
  | _ => exact quiet_gains rfl bus

/-- A record is written into the next memory block, or there is none. -/
theorem getConfigDescriptor_writes (bus : Bus) (device : Address) (index : UInt8) :
    ((bus.getConfigDescriptor device index).1.out = none ∧
      (bus.getConfigDescriptor device index).2.descriptors = bus.descriptors) ∨
    ∃ value interfaces, (bus.getConfigDescriptor device index).1.out =
        some { ref := .block bus.nextBlock, record := .build value interfaces } ∧
      (bus.getConfigDescriptor device index).2.descriptors =
        bus.descriptors ++ [bus.nextBlock] := by
  have makes : bus.Makes (bus.getConfigDescriptor device index).1
      (bus.getConfigDescriptor device index).2 fun made expected =>
        (∃ value interfaces,
          made = { ref := .block bus.nextBlock, record := .build value interfaces }) ∧
        expected.descriptors = bus.descriptors ++ [bus.nextBlock] := by
    refine answering_makes (withDevice_makes fun attached _ => ?_)
    split
    · exact .refused rfl (Steady.refl bus).aside
    · exact .made ⟨⟨_, _, rfl⟩, rfl⟩ rfl (.refl _)
  cases makes with
  | refused nothing aside =>
    obtain ⟨misuse, -, steady⟩ := aside
    exact .inl ⟨nothing, steady.descriptors⟩
  | made grown out steady =>
    obtain ⟨⟨value, interfaces, rfl⟩, grown⟩ := grown
    exact .inr ⟨value, interfaces, out, steady.descriptors.trans grown⟩

theorem step_journal (bus : Bus) (step : BusStep) :
    bus.journal.length ≤ (bus.step step).journal.length := by
  cases step with
  | call call =>
    obtain ⟨entry, -, journal⟩ := bus.perform_entry call
    have after : (bus.step (.call call)).journal = bus.journal ++ [entry] := journal
    rw [after, List.length_append]
    exact Nat.le_add_right ..
  | attach | fail | failReleaseOf | clearFailures => exact Nat.le_refl _

/-! ## How many addresses there are -/

theorem quiet_nextAddress (call : NativeCall) (quiet : call.isQuiet) (bus : Bus) :
    (call.after bus).nextAddress = bus.nextAddress := by
  obtain ⟨misuse, -, steady⟩ := quiet_aside quiet bus
  exact steady.nextAddress

theorem after_nextAddress (call : NativeCall) (idle : call.allocates = false) (bus : Bus) :
    (call.after bus).nextAddress = bus.nextAddress := by
  cases call with
  | initLibrary | openDevice | wrapSystemDevice => contradiction
  | exitLibrary context =>
    show (bus.exitLibrary context).nextAddress = _
    unfold exitLibrary
    dsimp only
    split <;> rfl
  | getDeviceList context =>
    rcases bus.getDeviceList_cases with ⟨-, -, steady⟩ | ⟨-, -, steady⟩
    · exact steady.nextAddress
    · exact steady.nextAddress
  | freeDeviceList list unref =>
    show (bus.freeDeviceList list unref).nextAddress = _
    unfold freeDeviceList
    dsimp only
    split
    · rfl
    · next array _ =>
      split
      · rfl
      · exact (giveBackAll_debited _ .freeDeviceList array.entries).nextAddress
  | refDevice device =>
    show (bus.refDevice device).nextAddress = _
    unfold refDevice
    dsimp only
    split <;> rfl
  | unrefDevice device =>
    exact ((bus.record .unrefDevice).giveBack_debited .unrefDevice device).nextAddress
  | closeHandle handle =>
    show (bus.closeHandle handle).nextAddress = _
    unfold closeHandle
    dsimp only
    split
    · rfl
    · next opened _ => exact (giveBack_debited _ .closeHandle opened.device).nextAddress
  | getConfigDescriptor device index =>
    cases bus.getConfigDescriptor_makes device index with
    | refused nothing aside =>
      obtain ⟨misuse, -, steady⟩ := aside
      exact steady.nextAddress
    | made grown out steady =>
      obtain ⟨-, rfl⟩ := grown
      exact steady.nextAddress
  | freeConfigDescriptor descriptor =>
    show (bus.freeConfigDescriptor descriptor).nextAddress = _
    unfold freeConfigDescriptor
    dsimp only
    split <;> rfl
  | _ => exact quiet_nextAddress _ rfl bus

/-- How many addresses have been handed out. -/
def allocated (bus : Bus) : Nat := (bus.nextAddress - firstAddress) / addressStride

theorem allocated_mono (later : bus.nextAddress ≤ after.nextAddress) :
    bus.allocated ≤ after.allocated :=
  Nat.div_le_div_right (Nat.sub_le_sub_right later _)

theorem Coherent.step_nextAddress (coherent : bus.Coherent) (step : BusStep) :
    bus.nextAddress ≤ (bus.step step).nextAddress := by
  rcases bus.step_cases step with ⟨call, rfl⟩ | ⟨info, rfl⟩ | ⟨-, steady⟩
  · cases (perform_fair coherent call).stocks .contexts with
    | idle _ _ _ later => exact later
    | made _ _ _ later => exact Nat.le_of_lt later
    | freed _ _ _ _ _ later => exact later
    | missed _ _ _ later => exact later
  · exact Nat.le_of_lt bus.lt_nextAddress
  · exact Nat.le_of_eq steady.nextAddress.symm

theorem Coherent.run_nextAddress (coherent : bus.Coherent) (steps : List BusStep) :
    bus.nextAddress ≤ (bus.run steps).nextAddress := by
  induction steps generalizing bus with
  | nil => exact Nat.le_refl _
  | cons step later ih =>
    exact Nat.le_trans (coherent.step_nextAddress step) (ih (coherent.step step))

end Bus

end UsbHost
