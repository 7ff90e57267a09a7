import UsbHost.Proofs.Exchange

/-!
# What a native call does to the titles

A call that fails, or that answers an injected code, leaves nothing behind but its journal entry.
A call that succeeds makes at most one title. Both are stated for calls on devices and handles
that the bus knows, so that no call is a misuse.
-/

set_option autoImplicit false

namespace UsbHost

theorem ErrorKind.code_neg (kind : ErrorKind) : kind.code < 0 := by
  cases kind <;> decide

namespace Bus

variable {α : Type} {bus before after : Bus} {returned : List Address} {titles : List Title}
  {device raw : Address}

/-! ## Calls that leave nothing behind -/

/-- Only one more journal entry. -/
def Untouched (before after : Bus) : Prop :=
  ∃ entry, after = { before with journal := before.journal ++ [entry] }

/-- Nothing differs but the journal and the configurations of open handles. -/
structure Quiet (before after : Bus) : Prop extends Steady before after where
  tenures : after.handles.map OpenHandle.tenure = before.handles.map OpenHandle.tenure
  failures : after.failures = before.failures
  releaseFailures : after.releaseFailures = before.releaseFailures

theorem Steady.refl (bus : Bus) : bus.Steady bus := ⟨rfl, rfl, rfl, rfl, rfl, rfl, rfl, rfl⟩

theorem Quiet.refl (bus : Bus) : bus.Quiet bus := ⟨.refl bus, rfl, rfl, rfl⟩

theorem Steady.trans {last : Bus} (first : before.Steady after) (second : after.Steady last) :
    before.Steady last where
  nextAddress := second.nextAddress.trans first.nextAddress
  nextBlock := second.nextBlock.trans first.nextBlock
  contexts := second.contexts.trans first.contexts
  devices := second.devices.trans first.devices
  lists := second.lists.trans first.lists
  descriptors := second.descriptors.trans first.descriptors
  misuse := second.misuse.trans first.misuse
  seats := second.seats.trans first.seats

theorem Quiet.trans {last : Bus} (first : before.Quiet after) (second : after.Quiet last) :
    before.Quiet last where
  toSteady := first.toSteady.trans second.toSteady
  tenures := second.tenures.trans first.tenures
  failures := second.failures.trans first.failures
  releaseFailures := second.releaseFailures.trans first.releaseFailures

theorem Untouched.quiet (untouched : before.Untouched after) : before.Quiet after := by
  obtain ⟨entry, rfl⟩ := untouched
  exact ⟨⟨rfl, rfl, rfl, rfl, rfl, rfl, rfl, rfl⟩, rfl, rfl, rfl⟩

theorem untouched_record (bus : Bus) (function : NativeFunction) (argument returned : Option Int) :
    bus.Untouched (bus.record function argument returned) :=
  ⟨_, rfl⟩

theorem Steady.knows_iff (steady : before.Steady after) :
    after.Knows device ↔ before.Knows device := by
  rw [Knows, Knows, steady.devices]

/-! ## Calls that make a title -/

/-- The ways in which a native call may make a title, and the bus afterwards. -/
inductive Acquires (before : Bus) : Bus → Option Title → Prop where
  | nothing {after : Bus} : before.Quiet after → Acquires before after none
  | context {journal : List JournalEntry} :
      Acquires before
        { before with
          nextAddress := before.nextAddress + addressStride
          contexts := before.contexts ++ [before.nextAddress]
          journal }
        (some (.context before.nextAddress))
  | array {journal : List JournalEntry} :
      Acquires before { before.enumerated with journal } (some (.array before.enumeration))
  | reference {device : Address} {journal : List JournalEntry} : before.Knows device →
      Acquires before { before.modifyReferences device (· + 1) with journal }
        (some (.reference device))
  | handle {device : Address} {journal : List JournalEntry} : before.Knows device →
      Acquires before
        { before.modifyReferences device (· + 1) with
          nextAddress := before.nextAddress + addressStride
          handles := before.handles ++ [OpenHandle.mk before.nextAddress device [] 0]
          journal }
        (some (.handle before.nextAddress))
  | record {journal : List JournalEntry} :
      Acquires before
        { before with
          descriptors := before.descriptors ++ [before.nextBlock]
          nextBlock := before.nextBlock + 1
          journal }
        (some (.record (.block before.nextBlock)))

theorem steady_journal (bus : Bus) (journal : List JournalEntry) :
    bus.Steady { bus with journal } := ⟨rfl, rfl, rfl, rfl, rfl, rfl, rfl, rfl⟩

theorem Backs.journal (backs : bus.Backs returned titles) (journal : List JournalEntry) :
    { bus with journal }.Backs returned titles :=
  backs.steady (bus.steady_journal journal)

theorem Backs.acquire {title : Option Title} (backs : before.Backs returned titles)
    (acquires : before.Acquires after title) :
    after.Backs returned (title.toList ++ titles) := by
  cases acquires with
  | nothing quiet => exact backs.steady quiet.toSteady
  | context => exact backs.addContext.journal _
  | array => exact backs.enumerated.journal _
  | reference known => exact (backs.takeReference known).journal _
  | handle known => exact (backs.takeReference known).seatHandle.journal _
  | record => exact backs.addRecord.journal _

theorem Acquires.knows {title : Option Title} (acquires : before.Acquires after title)
    (known : before.Knows device) : after.Knows device := by
  cases acquires with
  | nothing quiet => exact quiet.knows_iff.mpr known
  | context | record => exact known
  | array => exact knows_enumerated.mpr known
  | reference | handle => exact knows_modifyReferences.mpr known

theorem Untouched.acquires {middle : Bus} {title : Option Title}
    (untouched : before.Untouched middle) (acquires : middle.Acquires after title) :
    before.Acquires after title := by
  have quiet := untouched.quiet
  obtain ⟨entry, rfl⟩ := untouched
  cases acquires with
  | nothing later => exact .nothing (quiet.trans later)
  | context => exact .context
  | array => exact .array
  | reference known => exact .reference known
  | handle known => exact .handle known
  | record => exact .record

/-! ## What calls answer -/

/-- A call that may make a title out of what it writes. -/
structure Obtains (before : Bus) (reply : Reply α) (after : Bus) (title : α → Title) : Prop where
  acquires : before.Acquires after (reply.out.map title)
  failed : reply.code < 0 → reply.out = none ∧ before.Untouched after

structure Answers (before : Bus) (reply : Reply α) (after : Bus) : Prop where
  quiet : before.Quiet after
  failed : reply.code < 0 → before.Untouched after

theorem Untouched.obtains {title : α → Title} {code : Int} (untouched : before.Untouched after) :
    before.Obtains { code } after title :=
  ⟨.nothing untouched.quiet, fun _ => ⟨rfl, untouched⟩⟩

theorem Untouched.answers {reply : Reply α} (untouched : before.Untouched after) :
    before.Answers reply after :=
  ⟨untouched.quiet, fun _ => untouched⟩

/-- A call answers its injected code, or else what its body answers. -/
theorem answering_cases (bus : Bus) (function : NativeFunction) (argument injected : Option Int)
    (body : Reply α × Bus) :
    (∃ code, injected = some code ∧ bus.answering function argument injected body =
      ({ code }, bus.record function argument (some code))) ∨
    (injected = none ∧ bus.answering function argument injected body =
      (body.1, body.2.record function argument (some body.1.code))) := by
  cases injected with
  | none => exact .inr ⟨rfl, rfl⟩
  | some code => exact .inl ⟨code, rfl, rfl⟩

theorem answering_obtains {function : NativeFunction} {argument injected : Option Int}
    {body : Reply α × Bus} {title : α → Title}
    (otherwise : bus.Obtains body.1 (body.2.record function argument (some body.1.code)) title) :
    bus.Obtains (bus.answering function argument injected body).1
      (bus.answering function argument injected body).2 title := by
  rcases bus.answering_cases function argument injected body with ⟨code, -, same⟩ | ⟨-, same⟩
  · rw [same]
    exact (bus.untouched_record ..).obtains
  · rw [same]
    exact otherwise

theorem answering_answers {function : NativeFunction} {argument injected : Option Int}
    {body : Reply α × Bus}
    (otherwise : bus.Answers body.1 (body.2.record function argument (some body.1.code))) :
    bus.Answers (bus.answering function argument injected body).1
      (bus.answering function argument injected body).2 := by
  rcases bus.answering_cases function argument injected body with ⟨code, -, same⟩ | ⟨-, same⟩
  · rw [same]
    exact (bus.untouched_record ..).answers
  · rw [same]
    exact otherwise

theorem withDevice_found {attached : AttachedDevice} (found : bus.device? device = some attached)
    (function : NativeFunction) (body : AttachedDevice → Reply α × Bus) :
    bus.withDevice function device body = body attached := by
  rw [withDevice, found]

theorem withHandle_found {opened : OpenHandle} (found : bus.handle? raw = some opened)
    (function : NativeFunction) (body : OpenHandle → Reply α × Bus) :
    bus.withHandle function raw body = body opened := by
  rw [withHandle, found]

theorem modifyHandle_view {β : Type} (bus : Bus) (handle : Address) (view : OpenHandle → β)
    {change : OpenHandle → OpenHandle} (same : ∀ opened, view (change opened) = view opened) :
    (bus.modifyHandle handle change).handles.map view = bus.handles.map view :=
  Keyed.map_update bus.handles same

theorem initLibrary_obtains (bus : Bus) :
    bus.Obtains bus.initLibrary.1 bus.initLibrary.2 .context :=
  answering_obtains
    ⟨.context, fun negative => absurd negative (by simp [Reply.wrote])⟩

theorem getDeviceList_obtains (bus : Bus) :
    bus.Obtains bus.getDeviceList.1 bus.getDeviceList.2 .array :=
  answering_obtains
    ⟨.array, fun negative => absurd negative (by simp)⟩

theorem openDevice_obtains (known : bus.Knows device) :
    bus.Obtains (bus.openDevice device).1 (bus.openDevice device).2 .handle := by
  obtain ⟨attached, found⟩ := known.device?
  refine answering_obtains ?_
  rw [withDevice_found found]
  split
  · exact (bus.untouched_record ..).obtains
  · exact ⟨.handle known, fun negative => absurd negative (by simp [addHandle, Reply.wrote])⟩

theorem wrapSystemDevice_obtains (bus : Bus) (systemHandle : Int) :
    bus.Obtains (bus.wrapSystemDevice systemHandle).1 (bus.wrapSystemDevice systemHandle).2
      .handle := by
  refine answering_obtains ?_
  split
  · next attached found =>
    have known := knows_of_mem (List.mem_of_find?_eq_some found)
    exact ⟨.handle known, fun negative => absurd negative (by simp [addHandle, Reply.wrote])⟩
  · exact (bus.untouched_record ..).obtains

theorem getConfigDescriptor_obtains (known : bus.Knows device) (index : UInt8) :
    bus.Obtains (bus.getConfigDescriptor device index).1 (bus.getConfigDescriptor device index).2
      fun pointer => .record pointer.ref := by
  obtain ⟨attached, found⟩ := known.device?
  refine answering_obtains ?_
  rw [withDevice_found found]
  split
  · exact (bus.untouched_record ..).obtains
  · exact ⟨.record, fun negative => absurd negative (by simp [Reply.wrote])⟩

theorem refDevice_acquires (known : bus.Knows device) :
    bus.Acquires (bus.refDevice device) (some (.reference device)) := by
  obtain ⟨attached, found⟩ := known.device?
  have recorded : (bus.record .refDevice).device? device = some attached := found
  rw [refDevice, recorded]
  exact .reference known

theorem getDeviceDescriptor_answers (known : bus.Knows device) :
    bus.Answers (bus.getDeviceDescriptor device).1 (bus.getDeviceDescriptor device).2 := by
  obtain ⟨attached, found⟩ := known.device?
  refine answering_answers ?_
  rw [withDevice_found found]
  exact (bus.untouched_record ..).answers

theorem getPortNumbers_answers (known : bus.Knows device) (capacity : Int) :
    bus.Answers (bus.getPortNumbers device capacity).1 (bus.getPortNumbers device capacity).2 := by
  obtain ⟨attached, found⟩ := known.device?
  refine answering_answers ?_
  rw [withDevice_found found]
  dsimp only
  split <;> exact (bus.untouched_record ..).answers

theorem readByte_untouched (known : bus.Knows device) (function : NativeFunction)
    (byte : DeviceInfo → UInt8) :
    bus.Untouched (bus.readByte function device byte).2 := by
  obtain ⟨attached, found⟩ := known.device?
  have recorded : (bus.record function).device? device = some attached := found
  rw [readByte, recorded]
  exact bus.untouched_record ..

theorem getDevice_found {opened : OpenHandle} (found : bus.handle? raw = some opened) :
    bus.getDevice raw = (opened.device, bus.record .getDevice) := by
  have recorded : (bus.record .getDevice).handle? raw = some opened := found
  rw [getDevice, recorded]

theorem getConfiguration_answers {opened : OpenHandle} (found : bus.handle? raw = some opened) :
    bus.Answers (bus.getConfiguration raw).1 (bus.getConfiguration raw).2 := by
  refine answering_answers ?_
  rw [withHandle_found found]
  exact (bus.untouched_record ..).answers

theorem setAutoDetach_answers {opened : OpenHandle} (found : bus.handle? raw = some opened)
    (enable : Int) :
    bus.Answers (bus.setAutoDetach raw enable).1 (bus.setAutoDetach raw enable).2 := by
  refine answering_answers ?_
  rw [withHandle_found found]
  exact (bus.untouched_record ..).answers

theorem setConfiguration_answers {opened : OpenHandle} (found : bus.handle? raw = some opened)
    (value : Int) :
    bus.Answers (bus.setConfiguration raw value).1 (bus.setConfiguration raw value).2 := by
  refine answering_answers ?_
  rw [withHandle_found found]
  exact
    { quiet := ⟨⟨rfl, rfl, rfl, rfl, rfl, rfl, rfl, bus.modifyHandle_view raw _ fun _ => rfl⟩,
        bus.modifyHandle_view raw _ fun _ => rfl, rfl, rfl⟩
      failed := fun negative => absurd negative (by simp [Reply.done]) }

/-! ## Claims -/

/-- What a claim through an open handle may answer, and the bus afterwards. -/
inductive Claims (before : Bus) (opened : OpenHandle) (interface : Int) : Int → Bus → Prop where
  | refused {code : Int} {after : Bus} : before.Untouched after →
      code < 0 ∨ before.injected .claimInterface = some code →
      Claims before opened interface code after
  | again {after : Bus} : before.Untouched after → interface ∈ opened.claimed →
      interface < before.interfaceLimit opened.device →
      Claims before opened interface 0 after
  | claimed {journal : List JournalEntry} : interface ∉ opened.claimed →
      interface < before.interfaceLimit opened.device →
      Claims before opened interface 0
        { before.modifyHandle opened.id
            (fun opened => { opened with claimed := opened.claimed ++ [interface] }) with
          journal }

/-- What a release through an open handle may answer, and the bus afterwards. -/
inductive Releases (before : Bus) (opened : OpenHandle) (interface : Int) : Int → Bus → Prop where
  | refused {code : Int} {after : Bus} : before.Untouched after →
      code < 0 ∨ before.injectedRelease interface = some code →
      Releases before opened interface code after
  | released {journal : List JournalEntry} : interface ∈ opened.claimed →
      Releases before opened interface 0
        { before.modifyHandle opened.id
            (fun opened => { opened with claimed := opened.claimed.erase interface }) with
          journal }

theorem handle?_id {opened : OpenHandle} (found : bus.handle? raw = some opened) :
    opened.id = raw := by
  simpa using List.find?_some found

theorem claims_eq {opened : OpenHandle} (found : bus.handle? raw = some opened) :
    bus.claims raw = opened.claimed := by
  rw [claims, found]
  rfl

theorem claimInterface_claims {opened : OpenHandle} (found : bus.handle? raw = some opened)
    (interface : Int) :
    bus.Claims opened interface (bus.claimInterface raw interface).1.code
      (bus.claimInterface raw interface).2 := by
  obtain rfl := handle?_id found
  unfold claimInterface checked
  rw [withHandle_found found]
  rcases bus.answering_cases .claimInterface (some interface) (bus.injected .claimInterface) _
    with ⟨code, injected, same⟩ | ⟨-, same⟩
  · rw [same]
    exact .refused (bus.untouched_record ..) (.inr injected)
  · rw [same]
    split
    · exact .refused (bus.untouched_record ..) (.inl (ErrorKind.notFound.code_neg))
    · next inside =>
      rw [not_or, Int.not_lt, Int.not_le] at inside
      split
      · next member => exact .again (bus.untouched_record ..) member inside.2
      · next fresh => exact .claimed fresh inside.2

theorem releaseInterface_releases {opened : OpenHandle} (found : bus.handle? raw = some opened)
    (interface : Int) :
    bus.Releases opened interface (bus.releaseInterface raw interface).1.code
      (bus.releaseInterface raw interface).2 := by
  obtain rfl := handle?_id found
  unfold releaseInterface
  rw [withHandle_found found]
  rcases bus.answering_cases .releaseInterface (some interface) (bus.injectedRelease interface) _
    with ⟨code, injected, same⟩ | ⟨-, same⟩
  · rw [same]
    exact .refused (bus.untouched_record ..) (.inr injected)
  · rw [same]
    split
    · next member => exact .released member
    · exact .refused (bus.untouched_record ..) (.inl (ErrorKind.notFound.code_neg))

theorem Claims.untouched {opened : OpenHandle} {interface code : Int}
    (claims : before.Claims opened interface code after) (negative : code < 0) :
    before.Untouched after := by
  cases claims with
  | refused untouched => exact untouched
  | again => contradiction
  | claimed => contradiction

theorem Releases.untouched {opened : OpenHandle} {interface code : Int}
    (releases : before.Releases opened interface code after) (negative : code < 0) :
    before.Untouched after := by
  cases releases with
  | refused untouched => exact untouched
  | released => contradiction

theorem Claims.steady {opened : OpenHandle} {interface code : Int}
    (claims : before.Claims opened interface code after) : before.Steady after := by
  cases claims with
  | refused untouched | again untouched => exact untouched.quiet.toSteady
  | claimed =>
    exact ⟨rfl, rfl, rfl, rfl, rfl, rfl, rfl, before.modifyHandle_view _ _ fun _ => rfl⟩

theorem Releases.steady {opened : OpenHandle} {interface code : Int}
    (releases : before.Releases opened interface code after) : before.Steady after := by
  cases releases with
  | refused untouched => exact untouched.quiet.toSteady
  | released =>
    exact ⟨rfl, rfl, rfl, rfl, rfl, rfl, rfl, before.modifyHandle_view _ _ fun _ => rfl⟩

end Bus

end UsbHost
