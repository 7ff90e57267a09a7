import Mathlib.Data.List.Induction
import Mathlib.Data.List.Perm.Subperm
import UsbHost.Proofs.Growth
import UsbHost.Proofs.WatchedCalls

/-!
# Runs without faults

A run that hands out fewer than 2^59 addresses never meets a fault. Addresses stay words because
there are so few of them, and every device has one. A reference count stays a word because the
journal holds an entry for every reference: before a count could overflow, the journal would have
outgrown any vector.
-/

set_option autoImplicit false

namespace UsbHost

theorem Bus.spacious_of_few {bus : Bus} (few : bus.allocated < 2 ^ 59) : bus.Spacious := by
  have word (next : Nat) (below : (next - 0x1000) / 0x10 < 2 ^ 59) : next + 0x10 < 2 ^ 64 := by
    omega
  exact word bus.nextAddress few

/-! ## Sound machines -/

namespace Machine

variable {machine : Machine}

/-- What holds of a machine after any run. -/
structure Sound (machine : Machine) : Prop where
  coherent : machine.bus.Coherent
  spaced : firstAddress + addressStride * machine.bus.devices.length ≤ machine.bus.nextAddress
  counted : ∀ attached ∈ machine.bus.devices,
    attached.references ≤ machine.bus.journal.length + 1
  built : ∀ serial ∈ machine.bus.descriptors, ∃ value interfaces,
    machine.records serial = .build value interfaces

theorem sound_nothing : Sound {} where
  coherent := Bus.coherent_nothing
  spaced := Nat.le_refl _
  counted := List.forall_mem_nil _
  built := List.forall_mem_nil _

theorem Sound.devices (sound : machine.Sound) (few : machine.bus.allocated < 2 ^ 59) :
    machine.bus.devices.length < 2 ^ 59 := by
  have fewer (count next : Nat) (below : (next - 0x1000) / 0x10 < 2 ^ 59)
      (spaced : 0x1000 + 0x10 * count ≤ next) : count < 2 ^ 59 := by
    omega
  exact fewer _ machine.bus.nextAddress few sound.spaced

theorem Sound.countable (sound : machine.Sound) (writable : machine.bus.Writable) :
    machine.bus.Countable := by
  intro attached member
  have counted := sound.counted attached member
  unfold Bus.Writable Watched.vectorLimit at writable
  omega

/-- An array names distinct devices, so it is no longer than there are devices. -/
theorem Sound.arrays (sound : machine.Sound) (few : machine.bus.allocated < 2 ^ 59) :
    ∀ array ∈ machine.bus.lists, array.entries.length + 1 < 2 ^ 64 := by
  intro array member
  have distinct := sound.coherent.entries array member
  have known : array.entries ⊆ machine.bus.devices.map AttachedDevice.id :=
    sound.coherent.listed array member
  have shorter := (List.subperm_of_subset distinct known).length_le
  rw [List.length_map] at shorter
  have devices := sound.devices few
  omega

/-! ## One call -/

open Watched

theorem freeInterfaces_built (value interfaces : UInt8) :
    freeInterfaces (.build value interfaces) = .ok () := by
  unfold freeInterfaces ConfigRecord.build
  by_cases none : interfaces = 0
  · rw [if_pos none]
  · rw [if_neg none]
    have whole : interfaces.toNat ≤ ((List.range interfaces.toNat).map fun n =>
        InterfaceRecord.mk (some [UInt8.ofNat n]) 1).length :=
      Nat.le_of_eq (by rw [List.length_map, List.length_range])
    dsimp only
    rw [upTo_ok whole]
    rfl

theorem freeConfigDescriptor_eq (sound : machine.Sound) (writable : machine.bus.Writable)
    (descriptor : BlockRef) : machine.freeConfigDescriptor descriptor =
      .ok { machine with bus := machine.bus.freeConfigDescriptor descriptor } := by
  unfold freeConfigDescriptor
  rw [room_ok writable, ok_bind]
  cases descriptor with
  | foreign address => rfl
  | block serial =>
    dsimp only
    split
    · next live =>
      obtain ⟨value, interfaces, built⟩ := sound.built serial live
      rw [built, freeInterfaces_built, ok_bind]
      rfl
    · rfl

/-- The machine after a call that goes well. -/
def after (call : NativeCall) (machine : Machine) : Machine :=
  { machine with bus := call.after machine.bus }.keep (call.answer machine.bus).record?

@[simp] theorem keep_bus (machine : Machine) (written : Option ConfigPointer) :
    (machine.keep written).bus = machine.bus := by
  unfold keep
  split <;> rfl

theorem after_bus (call : NativeCall) (machine : Machine) :
    (machine.after call).bus = call.after machine.bus :=
  keep_bus ..

/-- A call that finds room for its journal entry does what it does without being watched. -/
theorem Sound.perform (sound : machine.Sound) (few : machine.bus.allocated < 2 ^ 59)
    (writable : machine.bus.Writable) (call : NativeCall) :
    machine.perform call = .ok (call.answer machine.bus, machine.after call) := by
  have spacious : machine.bus.Spacious := Bus.spacious_of_few few
  have countable : machine.bus.Countable := sound.countable writable
  have coherent : machine.bus.Coherent := sound.coherent
  unfold Machine.perform
  cases call with
  | initLibrary =>
    dsimp only
    rw [initLibrary_eq writable spacious]
    rfl
  | getDeviceList context =>
    dsimp only
    rw [getDeviceList_eq writable countable]
    rfl
  | freeDeviceList list unref =>
    dsimp only
    rw [freeDeviceList_eq writable coherent (sound.arrays few)]
    rfl
  | refDevice device =>
    dsimp only
    rw [refDevice_eq writable countable]
    rfl
  | unrefDevice device =>
    dsimp only
    rw [unrefDevice_eq writable coherent]
    rfl
  | openDevice device =>
    dsimp only
    rw [openDevice_eq writable spacious countable]
    rfl
  | wrapSystemDevice context systemHandle =>
    dsimp only
    rw [wrapSystemDevice_eq writable spacious countable]
    rfl
  | closeHandle handle =>
    dsimp only
    rw [closeHandle_eq writable coherent]
    rfl
  | getConfigDescriptor device index =>
    dsimp only
    rw [getConfigDescriptor_eq writable]
    rfl
  | freeConfigDescriptor descriptor =>
    dsimp only
    rw [freeConfigDescriptor_eq sound writable]
    rfl
  | releaseInterface handle interface =>
    dsimp only
    rw [releaseInterface_eq writable coherent]
    rfl
  | getPortNumbers device capacity =>
    dsimp only
    rw [getPortNumbers_eq writable]
    rfl
  | _ =>
    dsimp only
    rw [room_ok writable]
    rfl

/-- Where a call writes no record, what is alive was alive before. -/
theorem Sound.after_unwritten {call : NativeCall} (sound : machine.Sound)
    (unwritten : (call.answer machine.bus).record? = none)
    (unmade : Stock.descriptors.made? call machine.bus = none) :
    ∀ serial ∈ (call.after machine.bus).descriptors, ∃ value interfaces,
      (machine.after call).records serial = .build value interfaces := by
  intro serial live
  have records : (machine.after call).records = machine.records := by
    unfold Machine.after keep
    rw [unwritten]
  have earlier : serial ∈ machine.bus.descriptors := by
    cases (Bus.perform_fair sound.coherent call).stocks .descriptors with
    | idle _ _ same =>
      have kept : serial ∈ Stock.descriptors.live machine.bus := same ▸ live
      exact kept
    | made made => exact nomatch unmade.symm.trans made
    | freed number _ _ _ same =>
      have kept : serial ∈ machine.bus.descriptors.filter (· ≠ number) := same ▸ live
      exact List.mem_of_mem_filter kept
    | missed _ _ same =>
      have kept : serial ∈ Stock.descriptors.live machine.bus := same ▸ live
      exact kept
  rw [records]
  exact sound.built serial earlier

theorem Sound.after_built (sound : machine.Sound) (call : NativeCall) :
    ∀ serial ∈ (call.after machine.bus).descriptors, ∃ value interfaces,
      (machine.after call).records serial = .build value interfaces := by
  cases call with
  | getConfigDescriptor device index =>
    rcases machine.bus.getConfigDescriptor_writes device index with
      ⟨nothing, same⟩ | ⟨value, interfaces, written, grown⟩
    · refine sound.after_unwritten nothing ?_
      exact congrArg (Option.bind · _) nothing
    · intro serial live
      have records : (machine.after (.getConfigDescriptor device index)).records serial =
          if serial = machine.bus.nextBlock then .build value interfaces
          else machine.records serial := by
        have answered : ((NativeCall.getConfigDescriptor device index).answer machine.bus).record? =
            some { ref := .block machine.bus.nextBlock, record := .build value interfaces } :=
          written
        unfold Machine.after keep
        rw [answered]
      have grown : ((NativeCall.getConfigDescriptor device index).after machine.bus).descriptors =
          machine.bus.descriptors ++ [machine.bus.nextBlock] :=
        grown
      rw [records]
      rw [grown] at live
      by_cases fresh : serial = machine.bus.nextBlock
      · rw [if_pos fresh]
        exact ⟨value, interfaces, rfl⟩
      · rw [if_neg fresh]
        rcases List.mem_append.mp live with old | new
        · exact sound.built serial old
        · exact absurd (List.mem_singleton.mp new) fresh
  | _ => exact sound.after_unwritten rfl rfl

theorem Sound.after (sound : machine.Sound) (call : NativeCall) : (machine.after call).Sound := by
  have fair := Bus.perform_fair sound.coherent call
  refine ⟨?_, ?_, ?_, ?_⟩
  · rw [after_bus]
    exact fair.coherent
  · have later : machine.bus.nextAddress ≤ (call.after machine.bus).nextAddress :=
      sound.coherent.step_nextAddress (.call call)
    have same : (call.after machine.bus).devices.length = machine.bus.devices.length := by
      simpa using congrArg List.length fair.ids
    rw [after_bus, same]
    exact Nat.le_trans sound.spaced later
  · rw [after_bus]
    intro attached member
    obtain ⟨earlier, known, gained⟩ := machine.bus.perform_gains call attached member
    obtain ⟨entry, -, journal⟩ := machine.bus.perform_entry call
    have counted := sound.counted earlier known
    rw [journal, List.length_append, List.length_singleton]
    omega
  · rw [after_bus]
    exact sound.after_built call

/-! ## Full journals -/

variable {β γ : Type}

theorem room_full (full : ¬ machine.bus.Writable) (next : Unit → Watched β) :
    (room machine.bus.journal >>= next) = .error .outOfMemory := by
  have refused : room machine.bus.journal = .error .outOfMemory := if_neg full
  rw [refused]
  rfl

theorem room_full_bind (full : ¬ machine.bus.Writable) (next : Unit → Watched β)
    (further : β → Watched γ) :
    ((room machine.bus.journal >>= next) >>= further) = .error .outOfMemory := by
  rw [room_full full]
  rfl

/-- The journal entry is the first thing that a call makes. -/
theorem perform_full (full : ¬ machine.bus.Writable) (call : NativeCall) :
    machine.perform call = .error .outOfMemory := by
  unfold Machine.perform
  cases call with
  | exitLibrary | getDevice | getDeviceDescriptor | claimInterface | setConfiguration
  | getConfiguration | setAutoDetach | getBusNumber | getDeviceAddress => exact room_full full _
  | _ => exact room_full_bind full _ _

/-! ## Steps and runs -/

/-- A step ends in a sound machine whose bus is that of the plain step. Only a call for whose entry
the journal has no room ends otherwise, and that is no fault. -/
inductive StepEnd (machine : Machine) (step : BusStep) : Prop where
  | done {after : Machine} : machine.step step = .ok after → after.Sound →
      after.bus = machine.bus.step step → StepEnd machine step
  | full : machine.step step = .error .outOfMemory →
      vectorLimit < (machine.bus.step step).journal.length → StepEnd machine step

theorem Sound.attach (sound : machine.Sound) (info : DeviceInfo) :
    Sound { machine with bus := (machine.bus.attach info).2 } where
  coherent := sound.coherent.attach info
  spaced := by
    have next (count next : Nat) (spaced : 0x1000 + 0x10 * count ≤ next) :
        0x1000 + 0x10 * (count + 1) ≤ next + 0x10 := by
      omega
    have grown : (machine.bus.attach info).2.devices.length = machine.bus.devices.length + 1 :=
      List.length_append
    rw [grown]
    exact next _ _ sound.spaced
  counted attached member := by
    rcases List.mem_append.mp member with old | new
    · exact sound.counted attached old
    · rw [List.mem_singleton.mp new]
      exact Nat.le_add_left ..
  built := sound.built

theorem Sound.step (sound : machine.Sound) (few : machine.bus.allocated < 2 ^ 59)
    (step : BusStep) : machine.StepEnd step := by
  cases step with
  | attach info =>
    have spacious : machine.bus.Spacious := Bus.spacious_of_few few
    have devices : machine.bus.devices.length + 1 < 2 ^ 64 := by
      have fewer := sound.devices few
      omega
    have done : machine.step (.attach info) =
        .ok { machine with bus := (machine.bus.attach info).2 } := by
      rw [Machine.step, attach_eq spacious devices]
      rfl
    exact .done done (sound.attach info) rfl
  | call call =>
    by_cases writable : machine.bus.Writable
    · refine .done ?_ (sound.after call) (machine.after_bus call)
      rw [Machine.step, sound.perform few writable]
      rfl
    · refine .full ?_ ?_
      · rw [Machine.step, perform_full writable]
        rfl
      · obtain ⟨entry, -, journal⟩ := machine.bus.perform_entry call
        have after : (machine.bus.step (.call call)).journal = machine.bus.journal ++ [entry] :=
          journal
        have limit : vectorLimit ≤ machine.bus.journal.length := Nat.not_lt.mp writable
        rw [after, List.length_append, List.length_singleton]
        exact Nat.lt_succ_of_le limit
  | fail function code =>
    exact .done rfl { sound with coherent := sound.coherent.step (.fail function code) } rfl
  | failReleaseOf interface code =>
    exact .done rfl { sound with coherent := sound.coherent.step (.failReleaseOf interface code) }
      rfl
  | clearFailures =>
    exact .done rfl { sound with coherent := sound.coherent.step .clearFailures } rfl

/-- A run meets no fault. It ends like the run that is not watched, unless calls fill the journal
of that run beyond any vector. -/
inductive RunEnd (machine : Machine) (steps : List BusStep) : Prop where
  | done {after : Machine} : machine.run steps = .ok after → after.Sound →
      after.bus = machine.bus.run steps → RunEnd machine steps
  | full : machine.run steps = .error .outOfMemory →
      vectorLimit < (machine.bus.run steps).journal.length → RunEnd machine steps

theorem run_snoc (machine : Machine) (past : List BusStep) (next : BusStep) :
    machine.run (past ++ [next]) = machine.run past >>= (step · next) := by
  unfold run
  rw [List.foldlM_append]
  refine congrArg (machine.run past >>= ·) (funext fun middle => ?_)
  rw [List.foldlM_cons]
  cases middle.step next <;> rfl

theorem RunEnd.snoc {past : List BusStep} (ended : machine.RunEnd past)
    (few : (machine.bus.run past).allocated < 2 ^ 59) (next : BusStep) :
    machine.RunEnd (past ++ [next]) := by
  have last : machine.bus.run (past ++ [next]) = (machine.bus.run past).step next :=
    machine.bus.run_append past [next]
  cases ended with
  | @done middle ran sound same =>
    rw [← same] at few last
    cases sound.step few next with
    | @done after stepped sound bus =>
      refine .done ?_ sound (bus.trans last.symm)
      rw [run_snoc, ran]
      exact stepped
    | full stopped long =>
      refine .full ?_ (last ▸ long)
      rw [run_snoc, ran]
      exact stopped
  | full stopped long =>
    refine .full ?_ ?_
    · rw [run_snoc, stopped]
      rfl
    · rw [last]
      exact Nat.lt_of_lt_of_le long ((machine.bus.run past).step_journal next)

/-- A run that hands out fewer than 2^59 addresses meets no fault. -/
theorem Sound.run (sound : machine.Sound) (steps : List BusStep)
    (few : (machine.bus.run steps).allocated < 2 ^ 59) : machine.RunEnd steps := by
  induction steps using List.reverseRecOn with
  | nil => exact .done rfl sound rfl
  | append_singleton past next ih =>
    have later : (machine.bus.run past).nextAddress ≤
        (machine.bus.run (past ++ [next])).nextAddress := by
      rw [Bus.run_append]
      exact (sound.coherent.run past).run_nextAddress [next]
    have earlier : (machine.bus.run past).allocated < 2 ^ 59 :=
      Nat.lt_of_le_of_lt (Bus.allocated_mono later) few
    exact (ih earlier).snoc earlier next

end Machine

end UsbHost
