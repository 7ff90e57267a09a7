import UsbHost.Proofs.Teardown

/-!
# The journal

Whatever it is handed, a native call writes one journal entry. The entry keeps the code that the
call answered, if the entry point answers one.
-/

set_option autoImplicit false

namespace UsbHost

/-- Whether the entry point answers a signed code, so that a call of it can fail. -/
def NativeFunction.isFallible : NativeFunction → Bool
  | initLibrary | getDeviceList | openDevice | wrapSystemDevice | getDeviceDescriptor
  | getConfigDescriptor | claimInterface | releaseInterface | setConfiguration
  | getConfiguration | setAutoDetach | getPortNumbers => true
  | exitLibrary | freeDeviceList | refDevice | unrefDevice | closeHandle | getDevice
  | freeConfigDescriptor | getBusNumber | getDeviceAddress => false

namespace Bus

variable {α : Type} {function : NativeFunction}

/-- A call of `function` that answers a code. -/
structure Coded (function : NativeFunction) (native : Bus → Reply α × Bus) : Prop where
  fallible : function.isFallible
  journal : ∀ bus, ∃ argument, (native bus).2.journal =
    bus.journal ++ [{ function, argument, returned := some (native bus).1.code }]

/-- A call of `function` that answers no code. -/
structure Uncoded (function : NativeFunction) (native : Bus → Bus) : Prop where
  infallible : function.isFallible = false
  journal : ∀ bus, ∃ argument, (native bus).journal =
    bus.journal ++ [{ function, argument, returned := none }]

/-! ## Calls that answer a code -/

theorem Coded.answering {argument : Option Int} {injected : Bus → Option Int}
    {body : Bus → Reply α × Bus} (fallible : function.isFallible)
    (kept : ∀ bus, (body bus).2.journal = bus.journal) :
    Coded function fun bus => bus.answering function argument (injected bus) (body bus) where
  fallible
  journal bus := by
    refine ⟨argument, ?_⟩
    rcases bus.answering_cases function argument (injected bus) (body bus)
      with ⟨code, -, same⟩ | ⟨-, same⟩
    · rw [same]
      rfl
    · rw [same]
      exact congrArg (· ++ _) (kept bus)

theorem withDevice_journal (bus : Bus) {device : Address}
    {body : AttachedDevice → Reply α × Bus}
    (kept : ∀ attached, (body attached).2.journal = bus.journal) :
    (bus.withDevice function device body).2.journal = bus.journal := by
  unfold withDevice
  split
  · exact kept _
  · rfl

theorem withHandle_journal (bus : Bus) {handle : Address} {body : OpenHandle → Reply α × Bus}
    (kept : ∀ opened, (body opened).2.journal = bus.journal) :
    (bus.withHandle function handle body).2.journal = bus.journal := by
  unfold withHandle
  split
  · exact kept _
  · rfl

theorem initLibrary_coded : Coded .initLibrary initLibrary :=
  .answering rfl fun _ => rfl

theorem getDeviceList_coded : Coded .getDeviceList getDeviceList :=
  .answering rfl fun _ => rfl

theorem openDevice_coded (device : Address) : Coded .openDevice (openDevice device) :=
  .answering rfl fun bus => bus.withDevice_journal fun _ => by split <;> rfl

theorem wrapSystemDevice_coded (systemHandle : Int) :
    Coded .wrapSystemDevice (wrapSystemDevice systemHandle) :=
  .answering rfl fun bus => by split <;> rfl

theorem getDeviceDescriptor_coded (device : Address) :
    Coded .getDeviceDescriptor (getDeviceDescriptor device) :=
  .answering rfl fun bus => bus.withDevice_journal fun _ => rfl

theorem getConfigDescriptor_coded (device : Address) (index : UInt8) :
    Coded .getConfigDescriptor (getConfigDescriptor device index) :=
  .answering rfl fun bus => bus.withDevice_journal fun _ => by split <;> rfl

theorem claimInterface_coded (handle : Address) (interface : Int) :
    Coded .claimInterface (claimInterface handle interface) :=
  .answering rfl fun bus => bus.withHandle_journal fun _ => by split; rfl; split <;> rfl

theorem releaseInterface_coded (handle : Address) (interface : Int) :
    Coded .releaseInterface (releaseInterface handle interface) :=
  .answering rfl fun bus => bus.withHandle_journal fun _ => by split <;> rfl

theorem setConfiguration_coded (handle : Address) (value : Int) :
    Coded .setConfiguration (setConfiguration handle value) :=
  .answering rfl fun bus => bus.withHandle_journal fun _ => rfl

theorem getConfiguration_coded (handle : Address) :
    Coded .getConfiguration (getConfiguration handle) :=
  .answering rfl fun bus => bus.withHandle_journal fun _ => rfl

theorem setAutoDetach_coded (handle : Address) (enable : Int) :
    Coded .setAutoDetach (setAutoDetach handle enable) :=
  .answering rfl fun bus => bus.withHandle_journal fun _ => rfl

theorem getPortNumbers_coded (device : Address) (capacity : Int) :
    Coded .getPortNumbers (getPortNumbers device capacity) :=
  .answering rfl fun bus => bus.withDevice_journal fun _ => by dsimp only; split <;> rfl

/-! ## Calls that answer none -/

theorem giveBackAll_journal (bus : Bus) (function : NativeFunction) (entries : List Address) :
    (entries.foldl (fun bus device => bus.giveBack function device) bus).journal =
      bus.journal := by
  induction entries generalizing bus with
  | nil => rfl
  | cons device rest ih => rw [List.foldl_cons, ih, giveBack_journal]

theorem exitLibrary_uncoded (context : Address) : Uncoded .exitLibrary (exitLibrary context) where
  infallible := rfl
  journal bus := by
    refine ⟨none, ?_⟩
    unfold exitLibrary
    dsimp only
    split <;> rfl

theorem freeDeviceList_uncoded (list : BlockRef) (unref : Int) :
    Uncoded .freeDeviceList (freeDeviceList list unref) where
  infallible := rfl
  journal bus := by
    refine ⟨some unref, ?_⟩
    unfold freeDeviceList
    dsimp only
    split
    · rfl
    · split
      · rfl
      · exact giveBackAll_journal ..

theorem refDevice_uncoded (device : Address) : Uncoded .refDevice (refDevice device) where
  infallible := rfl
  journal bus := by
    refine ⟨none, ?_⟩
    unfold refDevice
    dsimp only
    split <;> rfl

theorem unrefDevice_uncoded (device : Address) : Uncoded .unrefDevice (unrefDevice device) where
  infallible := rfl
  journal _ := ⟨none, giveBack_journal ..⟩

theorem closeHandle_uncoded (handle : Address) : Uncoded .closeHandle (closeHandle handle) where
  infallible := rfl
  journal bus := by
    refine ⟨none, ?_⟩
    unfold closeHandle
    dsimp only
    split
    · rfl
    · exact giveBack_journal ..

theorem getDevice_uncoded (handle : Address) :
    Uncoded .getDevice fun bus => (bus.getDevice handle).2 where
  infallible := rfl
  journal bus := by
    refine ⟨none, ?_⟩
    unfold getDevice
    dsimp only
    split <;> rfl

theorem freeConfigDescriptor_uncoded (descriptor : BlockRef) :
    Uncoded .freeConfigDescriptor (freeConfigDescriptor descriptor) where
  infallible := rfl
  journal bus := by
    refine ⟨none, ?_⟩
    unfold freeConfigDescriptor
    dsimp only
    split <;> rfl

theorem readByte_uncoded {function : NativeFunction} (infallible : function.isFallible = false)
    (device : Address) (byte : DeviceInfo → UInt8) :
    Uncoded function fun bus => (bus.readByte function device byte).2 where
  infallible
  journal bus := by
    refine ⟨none, ?_⟩
    unfold readByte
    dsimp only
    split <;> rfl

end Bus

end UsbHost
