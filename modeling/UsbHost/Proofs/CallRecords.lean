import UsbHost.Proofs.Journal

/-!
# What a native call writes down

A native call writes one journal entry under its own name, whatever it is handed, and takes down no
misuse of another call. Neither record ever loses anything.
-/

set_option autoImplicit false

namespace UsbHost

namespace NativeCall

def function : NativeCall → NativeFunction
  | initLibrary => .initLibrary
  | exitLibrary _ => .exitLibrary
  | getDeviceList _ => .getDeviceList
  | freeDeviceList .. => .freeDeviceList
  | refDevice _ => .refDevice
  | unrefDevice _ => .unrefDevice
  | openDevice _ => .openDevice
  | wrapSystemDevice .. => .wrapSystemDevice
  | closeHandle _ => .closeHandle
  | getDevice _ => .getDevice
  | getDeviceDescriptor _ => .getDeviceDescriptor
  | getConfigDescriptor .. => .getConfigDescriptor
  | freeConfigDescriptor _ => .freeConfigDescriptor
  | claimInterface .. => .claimInterface
  | releaseInterface .. => .releaseInterface
  | setConfiguration .. => .setConfiguration
  | getConfiguration _ => .getConfiguration
  | setAutoDetach .. => .setAutoDetach
  | getBusNumber _ => .getBusNumber
  | getDeviceAddress _ => .getDeviceAddress
  | getPortNumbers .. => .getPortNumbers

def answer (call : NativeCall) (bus : Bus) : NativeAnswer := (call.perform bus).1

def after (call : NativeCall) (bus : Bus) : Bus := (call.perform bus).2

end NativeCall

def Misuse.function : Misuse → NativeFunction
  | unknownContext _ => .exitLibrary
  | unknownList _ => .freeDeviceList
  | unknownDevice function _ | unknownHandle function _ => function
  | unknownDescriptor _ => .freeConfigDescriptor
  | referenceUnderflow function _ => function

namespace Bus

variable {α : Type} {bus middle after : Bus} {function : NativeFunction}

/-- Between two buses only misuses of `function` were taken down. -/
def Notes (function : NativeFunction) (bus after : Bus) : Prop :=
  ∃ noted, after.misuse = bus.misuse ++ noted ∧ ∀ misuse ∈ noted, misuse.function = function

theorem notes_nothing (same : after.misuse = bus.misuse) : bus.Notes function after :=
  ⟨[], by simpa using same, List.forall_mem_nil _⟩

theorem notes_report {misuse : Misuse} (own : misuse.function = function)
    (same : after.misuse = bus.misuse ++ [misuse]) : bus.Notes function after :=
  ⟨[misuse], same, by simpa using own⟩

theorem Notes.trans (first : bus.Notes function middle) (second : middle.Notes function after) :
    bus.Notes function after := by
  obtain ⟨noted, same, own⟩ := first
  obtain ⟨later, sameLater, ownLater⟩ := second
  exact ⟨noted ++ later, by rw [sameLater, same, List.append_assoc],
    List.forall_mem_append.mpr ⟨own, ownLater⟩⟩

theorem answering_notes {argument injected : Option Int} {body : Reply α × Bus}
    (otherwise : bus.Notes function body.2) :
    bus.Notes function (bus.answering function argument injected body).2 := by
  rcases bus.answering_cases function argument injected body with ⟨code, -, same⟩ | ⟨-, same⟩
  · rw [same]
    exact notes_nothing rfl
  · rw [same]
    exact otherwise

theorem withDevice_notes {device : Address} {body : AttachedDevice → Reply α × Bus}
    (present : ∀ attached, bus.Notes function (body attached).2) :
    bus.Notes function (bus.withDevice function device body).2 := by
  unfold withDevice
  split
  · exact present _
  · exact notes_report rfl rfl

theorem withHandle_notes {handle : Address} {body : OpenHandle → Reply α × Bus}
    (present : ∀ opened, bus.Notes function (body opened).2) :
    bus.Notes function (bus.withHandle function handle body).2 := by
  unfold withHandle
  split
  · exact present _
  · exact notes_report rfl rfl

theorem readByte_notes (bus : Bus) (function : NativeFunction) (device : Address)
    (byte : DeviceInfo → UInt8) : bus.Notes function (bus.readByte function device byte).2 := by
  unfold readByte
  dsimp only
  split
  · exact notes_nothing rfl
  · exact notes_report rfl rfl

theorem giveBack_notes (bus : Bus) (function : NativeFunction) (device : Address) :
    bus.Notes function (bus.giveBack function device) := by
  unfold giveBack
  split
  · exact notes_report rfl rfl
  · split
    · exact notes_report rfl rfl
    · exact notes_nothing rfl

theorem giveBackAll_notes (bus : Bus) (function : NativeFunction) (entries : List Address) :
    bus.Notes function
      (entries.foldl (fun bus device => bus.giveBack function device) bus) := by
  induction entries generalizing bus with
  | nil => exact notes_nothing rfl
  | cons device rest ih => exact (bus.giveBack_notes function device).trans (ih _)

/-- A native call takes down nothing but misuses of its own. -/
theorem perform_notes (bus : Bus) (call : NativeCall) :
    bus.Notes call.function (call.after bus) := by
  have kept : ∀ function, bus.Notes function bus := fun _ => notes_nothing rfl
  cases call with
  | initLibrary => exact answering_notes (notes_nothing rfl)
  | exitLibrary context =>
    show bus.Notes _ (bus.exitLibrary context)
    unfold exitLibrary
    dsimp only
    split
    · exact notes_nothing rfl
    · exact notes_report rfl rfl
  | getDeviceList _ => exact answering_notes (notes_nothing rfl)
  | freeDeviceList list unref =>
    show bus.Notes _ (bus.freeDeviceList list unref)
    unfold freeDeviceList
    dsimp only
    split
    · exact notes_report rfl rfl
    · split
      · exact notes_nothing rfl
      · exact giveBackAll_notes ..
  | refDevice device =>
    show bus.Notes _ (bus.refDevice device)
    unfold refDevice
    dsimp only
    split
    · exact notes_nothing rfl
    · exact notes_report rfl rfl
  | unrefDevice device => exact giveBack_notes ..
  | openDevice device =>
    refine answering_notes (withDevice_notes fun _ => ?_)
    split <;> exact notes_nothing rfl
  | wrapSystemDevice _ systemHandle =>
    refine answering_notes ?_
    split <;> exact notes_nothing rfl
  | closeHandle handle =>
    show bus.Notes _ (bus.closeHandle handle)
    unfold closeHandle
    dsimp only
    split
    · exact notes_report rfl rfl
    · exact giveBack_notes ..
  | getDevice handle =>
    show bus.Notes _ (bus.getDevice handle).2
    unfold getDevice
    dsimp only
    split
    · exact notes_nothing rfl
    · exact notes_report rfl rfl
  | getDeviceDescriptor device => exact answering_notes (withDevice_notes fun _ => kept _)
  | getConfigDescriptor device index =>
    refine answering_notes (withDevice_notes fun _ => ?_)
    split <;> exact notes_nothing rfl
  | freeConfigDescriptor descriptor =>
    show bus.Notes _ (bus.freeConfigDescriptor descriptor)
    unfold freeConfigDescriptor
    dsimp only
    split
    · exact notes_nothing rfl
    · exact notes_report rfl rfl
  | claimInterface handle interface =>
    refine answering_notes (withHandle_notes fun _ => ?_)
    split
    · exact kept _
    · split <;> exact notes_nothing rfl
  | releaseInterface handle interface =>
    refine answering_notes (withHandle_notes fun _ => ?_)
    split <;> exact notes_nothing rfl
  | setConfiguration handle value =>
    exact answering_notes (withHandle_notes fun _ => notes_nothing rfl)
  | getConfiguration handle => exact answering_notes (withHandle_notes fun _ => kept _)
  | setAutoDetach handle enable => exact answering_notes (withHandle_notes fun _ => kept _)
  | getBusNumber device => exact bus.readByte_notes ..
  | getDeviceAddress device => exact bus.readByte_notes ..
  | getPortNumbers device capacity =>
    refine answering_notes (withDevice_notes fun _ => ?_)
    dsimp only
    split <;> exact kept _

theorem Coded.entry {native : Bus → Reply α × Bus} (coded : Coded function native) (bus : Bus) :
    ∃ entry : JournalEntry, entry.function = function ∧
      (native bus).2.journal = bus.journal ++ [entry] := by
  obtain ⟨argument, written⟩ := coded.journal bus
  exact ⟨_, rfl, written⟩

theorem Uncoded.entry {native : Bus → Bus} (uncoded : Uncoded function native) (bus : Bus) :
    ∃ entry : JournalEntry, entry.function = function ∧
      (native bus).journal = bus.journal ++ [entry] := by
  obtain ⟨argument, written⟩ := uncoded.journal bus
  exact ⟨_, rfl, written⟩

/-- A native call writes one journal entry, under its own name. -/
theorem perform_entry (bus : Bus) (call : NativeCall) :
    ∃ entry : JournalEntry, entry.function = call.function ∧
      (call.after bus).journal = bus.journal ++ [entry] := by
  cases call with
  | initLibrary => exact initLibrary_coded.entry bus
  | exitLibrary context => exact (exitLibrary_uncoded context).entry bus
  | getDeviceList _ => exact getDeviceList_coded.entry bus
  | freeDeviceList list unref => exact (freeDeviceList_uncoded list unref).entry bus
  | refDevice device => exact (refDevice_uncoded device).entry bus
  | unrefDevice device => exact (unrefDevice_uncoded device).entry bus
  | openDevice device => exact (openDevice_coded device).entry bus
  | wrapSystemDevice _ systemHandle => exact (wrapSystemDevice_coded systemHandle).entry bus
  | closeHandle handle => exact (closeHandle_uncoded handle).entry bus
  | getDevice handle => exact (getDevice_uncoded handle).entry bus
  | getDeviceDescriptor device => exact (getDeviceDescriptor_coded device).entry bus
  | getConfigDescriptor device index => exact (getConfigDescriptor_coded device index).entry bus
  | freeConfigDescriptor descriptor => exact (freeConfigDescriptor_uncoded descriptor).entry bus
  | claimInterface handle interface => exact (claimInterface_coded handle interface).entry bus
  | releaseInterface handle interface => exact (releaseInterface_coded handle interface).entry bus
  | setConfiguration handle value => exact (setConfiguration_coded handle value).entry bus
  | getConfiguration handle => exact (getConfiguration_coded handle).entry bus
  | setAutoDetach handle enable => exact (setAutoDetach_coded handle enable).entry bus
  | getBusNumber device => exact (readByte_uncoded rfl device _).entry bus
  | getDeviceAddress device => exact (readByte_uncoded rfl device _).entry bus
  | getPortNumbers device capacity => exact (getPortNumbers_coded device capacity).entry bus

end Bus

end UsbHost
