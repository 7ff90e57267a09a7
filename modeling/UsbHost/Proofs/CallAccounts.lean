import UsbHost.Proofs.NativeAccounts

/-!
# Every native call is accounted for

One lemma for each entry point: what the call did to the bus is what it counts for. A call that
makes something either is refused or makes it; a call that frees something either finds it alive
or is taken down as a misuse; every other call leaves the accounts aside.
-/

set_option autoImplicit false

namespace UsbHost.Bus

variable {α : Type} {bus after : Bus} {device : Address} {call : NativeCall}

/-! ## Calls that make something -/

/-- A call was refused, or it made a resource and left the bus as expected. -/
inductive Makes (bus : Bus) (reply : Reply α) (after : Bus) (grown : α → Bus → Prop) : Prop where
  | refused : reply.out = none → bus.Aside after → Makes bus reply after grown
  | made {made : α} {expected : Bus} : grown made expected → reply.out = some made →
      expected.Steady after → Makes bus reply after grown

theorem answering_makes {function : NativeFunction} {argument injected : Option Int}
    {body : Reply α × Bus} {grown : α → Bus → Prop}
    (otherwise : bus.Makes body.1 body.2 grown) :
    bus.Makes (bus.answering function argument injected body).1
      (bus.answering function argument injected body).2 grown := by
  rcases bus.answering_cases function argument injected body with ⟨code, -, same⟩ | ⟨-, same⟩
  · rw [same]
    exact .refused rfl ((Steady.refl bus).aside.record ..)
  · rw [same]
    cases otherwise with
    | refused nothing aside => exact .refused nothing (aside.record ..)
    | made grown out steady => exact .made grown out (steady.trans (body.2.steady_journal _))

theorem withDevice_makes {function : NativeFunction} {body : AttachedDevice → Reply α × Bus}
    {grown : α → Bus → Prop}
    (present : ∀ attached, bus.device? device = some attached →
      bus.Makes (body attached).1 (body attached).2 grown) :
    bus.Makes (bus.withDevice function device body).1 (bus.withDevice function device body).2
      grown := by
  cases found : bus.device? device with
  | none =>
    rw [withDevice, found]
    exact .refused rfl (bus.aside_report rfl)
  | some attached =>
    rw [withDevice_found found]
    exact present attached found

/-! ### Contexts and configuration records -/

theorem Coherent.addContext (coherent : bus.Coherent) :
    { bus with
      nextAddress := bus.nextAddress + addressStride
      contexts := bus.contexts ++ [bus.nextAddress] }.Coherent where
  toOrderly :=
    { coherent.laterAddress with contexts := coherent.contexts.push bus.lt_nextAddress }
  listed := coherent.listed
  bound := coherent.bound

theorem initLibrary_makes (bus : Bus) :
    bus.Makes bus.initLibrary.1 bus.initLibrary.2 fun made expected =>
      made = bus.nextAddress ∧ expected =
        { bus with
          nextAddress := bus.nextAddress + addressStride
          contexts := bus.contexts ++ [bus.nextAddress] } :=
  answering_makes (.made ⟨rfl, rfl⟩ rfl (.refl _))

theorem initLibrary_fair (coherent : bus.Coherent) :
    Fair .initLibrary bus (NativeCall.initLibrary.after bus) := by
  cases bus.initLibrary_makes with
  | refused nothing aside =>
    refine aside.fair ⟨fun _ => rfl, fun _ => rfl, fun stock => ?_, fun stock => ?_⟩ coherent
    · cases stock <;> first | rfl | exact nothing
    · cases stock <;> rfl
  | made grown out steady =>
    obtain ⟨rfl, rfl⟩ := grown
    refine Fair.steady
      ⟨coherent.addContext, rfl, fun _ => rfl, fun stock => ?_⟩ steady
    cases stock with
    | contexts => exact .made out rfl rfl bus.lt_nextAddress rfl
    | handles => exact .idle rfl rfl rfl (Nat.le_of_lt bus.lt_nextAddress) rfl
    | lists | descriptors => exact .idle rfl rfl rfl (Nat.le_refl _) rfl

theorem Coherent.addRecord (coherent : bus.Coherent) :
    { bus with
      descriptors := bus.descriptors ++ [bus.nextBlock]
      nextBlock := bus.nextBlock + 1 }.Coherent where
  toOrderly :=
    { coherent.toOrderly with
      lists := coherent.lists.mono (Nat.le_succ _)
      descriptors := coherent.descriptors.push (Nat.lt_succ_self _) }
  listed := coherent.listed
  bound := coherent.bound

theorem getConfigDescriptor_makes (bus : Bus) (device : Address) (index : UInt8) :
    bus.Makes (bus.getConfigDescriptor device index).1 (bus.getConfigDescriptor device index).2
      fun made expected => made.ref = .block bus.nextBlock ∧ expected =
        { bus with
          descriptors := bus.descriptors ++ [bus.nextBlock]
          nextBlock := bus.nextBlock + 1 } := by
  refine answering_makes (withDevice_makes fun attached _ => ?_)
  split
  · exact .refused rfl (Steady.refl bus).aside
  · exact .made ⟨rfl, rfl⟩ rfl (.refl _)

theorem getConfigDescriptor_fair (coherent : bus.Coherent) (device : Address) (index : UInt8) :
    Fair (.getConfigDescriptor device index) bus
      ((NativeCall.getConfigDescriptor device index).after bus) := by
  cases bus.getConfigDescriptor_makes device index with
  | refused nothing aside =>
    refine aside.fair ⟨fun _ => rfl, fun _ => rfl, fun stock => ?_, fun stock => ?_⟩ coherent
    · cases stock with
      | contexts | lists | handles => rfl
      | descriptors => exact congrArg (Option.bind · _) nothing
    · cases stock <;> rfl
  | @made pointer _ grown out steady =>
    obtain ⟨fresh, rfl⟩ := grown
    refine Fair.steady
      ⟨coherent.addRecord, rfl, fun _ => rfl, fun stock => ?_⟩ steady
    cases stock with
    | descriptors =>
      refine .made ?_ rfl rfl (Nat.lt_succ_self _) rfl
      refine (congrArg (Option.bind · _) out).trans ?_
      rw [Option.bind_some, fresh]
      rfl
    | lists => exact .idle rfl rfl rfl (Nat.le_succ _) rfl
    | contexts | handles => exact .idle rfl rfl rfl (Nat.le_refl _) rfl

/-! ### Device arrays -/

theorem enumerated_references (bus : Bus) (device : Address) :
    bus.enumerated.references device =
      bus.references device + (decide (bus.Knows device)).toNat := by
  have found : bus.enumerated.device? device =
      (bus.device? device).map fun attached =>
        { attached with references := attached.references + 1 } := by
    rw [device?, enumerated, List.find?_map]
    rfl
  rw [references, found, references]
  cases present : bus.device? device with
  | none =>
    have missing : ¬ bus.Knows device := Keyed.find?_eq_none_iff.mp present
    simp [missing]
  | some attached =>
    have known := knows_of_device? present
    simp [known]

theorem Coherent.enumerated (coherent : bus.Coherent) : bus.enumerated.Coherent where
  toOrderly := coherent.toOrderly.enumerated
  listed array member device entry := by
    rw [knows_enumerated]
    rcases List.mem_append.mp member with old | new
    · exact coherent.listed array old device entry
    · rw [List.mem_singleton.mp new] at entry
      exact entry
  bound opened member := knows_enumerated.mpr (coherent.bound opened member)

/-- An enumeration that no injected code answers takes a reference to every attached device. -/
theorem getDeviceList_cases (bus : Bus) :
    (bus.injected .getDeviceList ≠ none ∧ bus.getDeviceList.1.out = none ∧
      bus.Steady bus.getDeviceList.2) ∨
    (bus.injected .getDeviceList = none ∧ bus.getDeviceList.1.out = some bus.enumeration ∧
      bus.enumerated.Steady bus.getDeviceList.2) := by
  unfold getDeviceList checked
  rcases bus.answering_cases .getDeviceList none (bus.injected .getDeviceList) _
    with ⟨code, injected, same⟩ | ⟨injected, same⟩
  · rw [same, injected]
    exact .inl ⟨nofun, rfl, bus.steady_journal _⟩
  · rw [same]
    exact .inr ⟨injected, rfl, bus.enumerated.steady_journal _⟩

theorem getDeviceList_fair (coherent : bus.Coherent) (context : Address) :
    Fair (.getDeviceList context) bus ((NativeCall.getDeviceList context).after bus) := by
  rcases bus.getDeviceList_cases with ⟨injected, nothing, steady⟩ | ⟨injected, made, steady⟩
  · refine steady.aside.fair
      ⟨fun device => ?_, fun _ => rfl, fun stock => ?_, fun stock => ?_⟩ coherent
    · simp [NativeCall.acquires, injected]
    · cases stock with
      | lists => exact congrArg (Option.map _) nothing
      | contexts | handles | descriptors => rfl
    · cases stock <;> rfl
  · refine Fair.steady
      ⟨coherent.enumerated, bus.enumerated_ids, fun device => ?_, fun stock => ?_⟩ steady
    · have misuse : bus.enumerated.misuse = bus.misuse := rfl
      rw [balance, balance, enumerated_references, misuse]
      simp only [NativeCall.acquires, NativeCall.givesBack, injected, true_and]
      simp
      omega
    · cases stock with
      | lists =>
        refine .made (congrArg (Option.map DeviceArray.block) made) rfl ?_ (Nat.lt_succ_self _) rfl
        simp [Stock.live, Stock.next, Bus.enumerated, enumeration]
      | descriptors => exact .idle rfl rfl rfl (Nat.le_succ _) rfl
      | contexts | handles => exact .idle rfl rfl rfl (Nat.le_refl _) rfl

/-! ### Handles -/

theorem Coherent.addHandle (coherent : bus.Coherent) (known : bus.Knows device) :
    (bus.addHandle device).2.Coherent := by
  have referenced : (bus.modifyReferences device (· + 1)).Coherent :=
    (bus.modifyReferences_debited device _).coherent coherent
  refine ⟨{ referenced.laterAddress with handles := ?_ }, referenced.listed,
    fun opened member => ?_⟩
  · simpa [Bus.addHandle, allocate] using
      referenced.handles.push (bus.modifyReferences device (· + 1)).lt_nextAddress
  · rcases List.mem_append.mp member with old | new
    · exact referenced.bound opened old
    · rw [List.mem_singleton.mp new]
      exact knows_modifyReferences.mpr known

theorem Coherent.addHandle_handle? (coherent : bus.Coherent) (device : Address) :
    (bus.addHandle device).2.handle? bus.nextAddress =
      some { id := bus.nextAddress, device } := by
  have fresh : bus.handle? bus.nextAddress = none :=
    Keyed.find?_eq_none_iff.mpr fun member =>
      Nat.lt_irrefl _ (coherent.handles.below _ member)
  have older : (bus.modifyReferences device (· + 1)).handles.find?
      (fun opened => opened.id == bus.nextAddress) = none := fresh
  simp [Bus.addHandle, allocate, handle?, List.find?_append, older]
  rfl

/-- Both calls that open a handle do so in the same way. -/
theorem Makes.handle_fair (reply : Reply Address) (coherent : bus.Coherent)
    (makes : bus.Makes reply (call.after bus) fun made expected => made = bus.nextAddress ∧
      ∃ device, bus.Knows device ∧ expected = (bus.addHandle device).2)
    (opened : call.openedOn? bus =
      (reply.out.bind (call.after bus).handle?).map OpenHandle.device)
    (acquires : ∀ device, call.acquires bus device = decide (call.openedOn? bus = some device))
    (givesBack : ∀ device, call.givesBack bus device = false)
    (made : ∀ stock : Stock, stock.made? call bus =
      if stock = .handles then reply.out else none)
    (freed : ∀ stock : Stock, stock.isFreedBy call = false) :
    Fair call bus (call.after bus) := by
  cases makes with
  | refused nothing aside =>
    refine aside.fair ⟨fun device => ?_, givesBack, fun stock => ?_, freed⟩ coherent
    · rw [acquires, opened, nothing]
      rfl
    · rw [made, nothing, ite_self]
  | made grown out steady =>
    obtain ⟨rfl, device, known, rfl⟩ := grown
    -- The answer names the handle, and the bus afterwards tells its device.
    have openedOn : call.openedOn? bus = some device := by
      obtain ⟨later, found, same⟩ := steady.handle? (coherent.addHandle_handle? device)
      rw [opened, out, Option.bind_some, found]
      exact congrArg (fun seat => some seat.2) same
    refine Fair.steady
      ⟨coherent.addHandle known, modifyReferences_ids .., fun other => ?_, fun stock => ?_⟩ steady
    · have balanced := bus.balance_modify device other (· + 1)
      have same : (bus.addHandle device).2.balance other =
          (bus.modifyReferences device (· + 1)).balance other := rfl
      rw [same, balanced, givesBack, acquires, openedOn, balance]
      by_cases asked : device = other
      · subst asked
        simp [known]
        omega
      · simp [asked, Ne.symm asked]
    · have madeHere := made stock
      cases stock with
      | handles =>
        have live : Stock.handles.live (bus.addHandle device).2 =
            Stock.handles.live bus ++ [bus.nextAddress] := List.map_append
        exact .made (madeHere.trans out) (freed _) live bus.lt_nextAddress rfl
      | contexts => exact .idle madeHere (freed _) rfl (Nat.le_of_lt bus.lt_nextAddress) rfl
      | lists | descriptors => exact .idle madeHere (freed _) rfl (Nat.le_refl _) rfl

theorem openDevice_makes (bus : Bus) (device : Address) :
    bus.Makes (bus.openDevice device).1 (bus.openDevice device).2 fun made expected =>
      made = bus.nextAddress ∧
        ∃ device, bus.Knows device ∧ expected = (bus.addHandle device).2 := by
  refine answering_makes (withDevice_makes fun attached found => ?_)
  split
  · exact .refused rfl (Steady.refl bus).aside
  · exact .made ⟨rfl, device, knows_of_device? found, rfl⟩ rfl (.refl _)

theorem openDevice_fair (coherent : bus.Coherent) (device : Address) :
    Fair (.openDevice device) bus ((NativeCall.openDevice device).after bus) :=
  Makes.handle_fair (bus.openDevice device).1 coherent (bus.openDevice_makes device) rfl
    (fun _ => rfl) (fun _ => rfl) (fun stock => by cases stock <;> rfl)
    (fun stock => by cases stock <;> rfl)

theorem wrapSystemDevice_makes (bus : Bus) (systemHandle : Int) :
    bus.Makes (bus.wrapSystemDevice systemHandle).1 (bus.wrapSystemDevice systemHandle).2
      fun made expected => made = bus.nextAddress ∧
        ∃ device, bus.Knows device ∧ expected = (bus.addHandle device).2 := by
  refine answering_makes ?_
  split
  · next attached found =>
    have known := knows_of_mem (List.mem_of_find?_eq_some found)
    exact .made ⟨rfl, attached.id, known, rfl⟩ rfl (.refl _)
  · exact .refused rfl (Steady.refl bus).aside

theorem wrapSystemDevice_fair (coherent : bus.Coherent) (context : Address) (systemHandle : Int) :
    Fair (.wrapSystemDevice context systemHandle) bus
      ((NativeCall.wrapSystemDevice context systemHandle).after bus) :=
  Makes.handle_fair (bus.wrapSystemDevice systemHandle).1 coherent
    (bus.wrapSystemDevice_makes systemHandle) rfl (fun _ => rfl) (fun _ => rfl)
    (fun stock => by cases stock <;> rfl) (fun stock => by cases stock <;> rfl)

/-! ## Calls that free something -/

/-- A call takes no reference and makes nothing, and is to free a resource of one kind. -/
structure Frees (call : NativeCall) (bus : Bus) (stock : Stock) : Prop where
  acquires : ∀ device, call.acquires bus device = false
  made : ∀ other : Stock, other.made? call bus = none
  frees : ∀ other : Stock, other.isFreedBy call = decide (other = stock)

/-- The bus without one resource of one kind. -/
structure Takes (bus : Bus) (stock : Stock) (number : Nat) (taken : Bus) : Prop where
  alive : number ∈ stock.live bus
  live : ∀ other : Stock, other.live taken =
    if other = stock then (other.live bus).filter (· ≠ number) else other.live bus
  next : ∀ other : Stock, other.next taken = other.next bus
  misuse : taken.misuse = bus.misuse
  ids : taken.devices.map AttachedDevice.id = bus.devices.map AttachedDevice.id
  references : ∀ device, taken.references device = bus.references device

/-- A call to free something that is not alive is taken down, and nothing else happens. -/
theorem Frees.missed {stock : Stock} {misuse : Misuse} (frees : Frees call bus stock)
    (coherent : bus.Coherent) (steady : (bus.report misuse).Steady after)
    (givesBack : ∀ device, call.givesBack bus device = false)
    (unknown : ∀ other : Stock, other.isUnknown misuse = decide (other = stock))
    (noUnderflow : ∀ device, misuse.isUnderflowOf device = false) : Fair call bus after := by
  refine Fair.steady ⟨?_, ?_, fun device => ?_, fun other => ?_⟩ steady
  · exact { coherent with toOrderly := { coherent.toOrderly with } }
  · rfl
  · have references : (bus.report misuse).references device = bus.references device := rfl
    rw [frees.acquires, givesBack, balance, balance, references, report, List.countP_append]
    simp [noUnderflow]
  · have live : other.live (bus.report misuse) = other.live bus := by cases other <;> rfl
    have next : other.next bus = other.next (bus.report misuse) := by cases other <;> rfl
    have count : other.unknown (bus.report misuse) =
        other.unknown bus + (decide (other = stock)).toNat := by
      rw [Stock.unknown, report, List.countP_append, List.countP_singleton, unknown]
      cases decide (other = stock) <;> rfl
    have freed := frees.frees other
    by_cases same : other = stock
    · rw [decide_eq_true same] at freed count
      exact .missed (frees.made _) freed live (Nat.le_of_eq next) count
    · rw [decide_eq_false same] at freed count
      exact .idle (frees.made _) freed live (Nat.le_of_eq next) count

/-- A call that finds what it is to free gives back references to devices at most besides. -/
theorem Frees.found {stock : Stock} {taken : Bus} {number : Nat} (frees : Frees call bus stock)
    (takes : bus.Takes stock number taken) (coherent : taken.Coherent)
    (debited : taken.Debited after)
    (balance : ∀ device, after.balance device + (call.givesBack bus device).toNat =
      bus.balance device) : Fair call bus after where
  coherent := debited.coherent coherent
  ids := debited.ids.trans takes.ids
  balance device := by
    rw [balance, frees.acquires]
    exact (Int.add_zero _).symm
  stocks other := by
    refine Stock.Turn.congr ?_ (debited.live other) (debited.next other) (debited.unknown other)
    have live := takes.live other
    have next := Nat.le_of_eq (takes.next other).symm
    have unknown : other.unknown taken = other.unknown bus := by
      rw [Stock.unknown, Stock.unknown, takes.misuse]
    have freed := frees.frees other
    by_cases same : other = stock
    · subst same
      rw [if_pos rfl] at live
      exact .freed number (frees.made _) (freed.trans (decide_eq_true rfl)) takes.alive live next
        unknown
    · rw [if_neg same] at live
      exact .idle (frees.made _) (freed.trans (decide_eq_false same)) live next unknown

theorem Takes.balance {stock : Stock} {taken : Bus} {number : Nat}
    (takes : bus.Takes stock number taken) (device : Address) :
    taken.balance device = bus.balance device := by
  rw [Bus.balance, Bus.balance, takes.references, takes.misuse]

/-! ### Contexts and configuration records -/

theorem Coherent.dropContext (coherent : bus.Coherent) (context : Address) :
    { bus with contexts := bus.contexts.filter (· ≠ context) }.Coherent where
  toOrderly :=
    { coherent.toOrderly with contexts := coherent.contexts.sublist List.filter_sublist }
  listed := coherent.listed
  bound := coherent.bound

theorem exitLibrary_frees (bus : Bus) (context : Address) :
    Frees (.exitLibrary context) bus .contexts where
  acquires _ := rfl
  made other := by cases other <;> rfl
  frees other := by cases other <;> rfl

theorem exitLibrary_fair (coherent : bus.Coherent) (context : Address) :
    Fair (.exitLibrary context) bus ((NativeCall.exitLibrary context).after bus) := by
  have frees := bus.exitLibrary_frees context
  show Fair _ bus (bus.exitLibrary context)
  unfold exitLibrary
  dsimp only
  split
  · next alive =>
    have takes : bus.Takes .contexts context
        { bus with contexts := bus.contexts.filter (· ≠ context) } :=
      ⟨alive, fun other => by cases other <;> rfl, fun other => by cases other <;> rfl, rfl, rfl,
        fun _ => rfl⟩
    refine (frees.found takes (coherent.dropContext context) (.refl _) fun device => ?_).steady
      (steady_journal _ _)
    exact (Int.add_zero _).trans (takes.balance device)
  · exact frees.missed coherent (steady_journal (bus.report (.unknownContext context)) _)
      (fun _ => rfl) (fun other => by cases other <;> rfl) (fun _ => rfl)

theorem Coherent.dropRecord (coherent : bus.Coherent) (serial : Nat) :
    { bus with descriptors := bus.descriptors.filter (· ≠ serial) }.Coherent where
  toOrderly :=
    { coherent.toOrderly with descriptors := coherent.descriptors.sublist List.filter_sublist }
  listed := coherent.listed
  bound := coherent.bound

theorem freeConfigDescriptor_frees (bus : Bus) (descriptor : BlockRef) :
    Frees (.freeConfigDescriptor descriptor) bus .descriptors where
  acquires _ := rfl
  made other := by cases other <;> rfl
  frees other := by cases other <;> rfl

theorem freeConfigDescriptor_fair (coherent : bus.Coherent) (descriptor : BlockRef) :
    Fair (.freeConfigDescriptor descriptor) bus
      ((NativeCall.freeConfigDescriptor descriptor).after bus) := by
  have frees := bus.freeConfigDescriptor_frees descriptor
  show Fair _ bus (bus.freeConfigDescriptor descriptor)
  unfold freeConfigDescriptor
  dsimp only
  split
  · next found =>
    obtain ⟨serial, alive, same⟩ := List.any_eq_true.mp found
    obtain rfl : BlockRef.block serial = descriptor := by simpa using same
    have takes : bus.Takes .descriptors serial
        { bus with descriptors := bus.descriptors.filter (· ≠ serial) } :=
      ⟨alive, fun other => by cases other <;> rfl, fun other => by cases other <;> rfl, rfl, rfl,
        fun _ => rfl⟩
    have fair := frees.found takes (coherent.dropRecord serial) (.refl _) fun device =>
      (Int.add_zero _).trans (takes.balance device)
    refine fair.steady ⟨rfl, rfl, rfl, rfl, rfl, ?_, rfl, rfl⟩
    simp [record]
  · exact frees.missed coherent (steady_journal (bus.report (.unknownDescriptor descriptor)) _)
      (fun _ => rfl) (fun other => by cases other <;> rfl) (fun _ => rfl)

/-! ### Device arrays -/

theorem array?_eq_some {list : BlockRef} {array : DeviceArray}
    (found : bus.array? list = some array) :
    array ∈ bus.lists ∧ BlockRef.block array.block = list :=
  ⟨List.mem_of_find?_eq_some found, by simpa using List.find?_some found⟩

theorem Coherent.dropArray (coherent : bus.Coherent) (block : Nat) :
    { bus with lists := bus.lists.filter (·.block ≠ block) }.Coherent where
  toOrderly :=
    { coherent.toOrderly with
      lists := coherent.lists.sublist (List.filter_sublist.map _)
      entries := fun array member => coherent.entries array (List.mem_of_mem_filter member) }
  listed array member := coherent.listed array (List.mem_of_mem_filter member)
  bound := coherent.bound

theorem freeDeviceList_frees (bus : Bus) (list : BlockRef) (unref : Int) :
    Frees (.freeDeviceList list unref) bus .lists where
  acquires _ := rfl
  made other := by cases other <;> rfl
  frees other := by cases other <;> rfl

theorem freeDeviceList_fair (coherent : bus.Coherent) (list : BlockRef) (unref : Int) :
    Fair (.freeDeviceList list unref) bus
      ((NativeCall.freeDeviceList list unref).after bus) := by
  have frees := bus.freeDeviceList_frees list unref
  have recorded : (bus.record .freeDeviceList (some unref)).array? list = bus.array? list := rfl
  show Fair _ bus (bus.freeDeviceList list unref)
  unfold freeDeviceList
  dsimp only
  rw [recorded]
  cases found : bus.array? list with
  | none =>
    refine frees.missed coherent (steady_journal (bus.report (.unknownList list)) _)
      (fun device => ?_) (fun other => by cases other <;> rfl) (fun _ => rfl)
    simp [NativeCall.givesBack, found]
  | some array =>
    obtain ⟨member, -⟩ := array?_eq_some found
    -- The array goes first, so the references of its entries are given back on the bus without it.
    let taken : Bus :=
      { bus.record .freeDeviceList (some unref) with
        lists := bus.lists.filter (·.block ≠ array.block) }
    have takes : bus.Takes .lists array.block taken := by
      refine ⟨List.mem_map_of_mem member, fun other => ?_, fun other => by cases other <;> rfl,
        rfl, rfl, fun _ => rfl⟩
      cases other with
      | lists => simp [taken, Stock.live, List.filter_map, Function.comp_def]
      | contexts | handles | descriptors => rfl
    have intact : taken.Coherent :=
      (steady_journal _ _).coherent (coherent.dropArray array.block)
    dsimp only
    split
    · next kept =>
      refine frees.found takes intact (.refl _) fun device => ?_
      rw [← takes.balance]
      simp [NativeCall.givesBack, kept, taken]
      rfl
    · next unreferenced =>
      refine frees.found takes intact (giveBackAll_debited ..) fun device => ?_
      have balance :=
        taken.giveBackAll_balance .freeDeviceList (coherent.entries array member) device
      rw [takes.balance] at balance
      have gives : (NativeCall.freeDeviceList list unref).givesBack bus device =
          decide (device ∈ array.entries ∧ taken.Knows device) := by
        have known : device ∈ array.entries → taken.Knows device := coherent.listed array member _
        simpa [NativeCall.givesBack, found, unreferenced] using known
      rw [gives]
      exact (congrArg (· + _) balance).trans (Int.sub_add_cancel ..)

/-! ### Handles -/

theorem Coherent.dropHandle (coherent : bus.Coherent) (handle : Address) :
    { bus with handles := bus.handles.filter (·.id ≠ handle) }.Coherent where
  toOrderly :=
    { coherent.toOrderly with
      handles := coherent.handles.sublist (List.filter_sublist.map _) }
  listed := coherent.listed
  bound opened member := coherent.bound opened (List.mem_of_mem_filter member)

theorem closeHandle_frees (bus : Bus) (handle : Address) :
    Frees (.closeHandle handle) bus .handles where
  acquires _ := rfl
  made other := by cases other <;> rfl
  frees other := by cases other <;> rfl

theorem closeHandle_fair (coherent : bus.Coherent) (handle : Address) :
    Fair (.closeHandle handle) bus ((NativeCall.closeHandle handle).after bus) := by
  have frees := bus.closeHandle_frees handle
  have recorded : (bus.record .closeHandle).handle? handle = bus.handle? handle := rfl
  show Fair _ bus (bus.closeHandle handle)
  unfold closeHandle
  dsimp only
  rw [recorded]
  cases found : bus.handle? handle with
  | none =>
    refine frees.missed coherent
      (steady_journal (bus.report (.unknownHandle .closeHandle handle)) _) (fun device => ?_)
      (fun other => by cases other <;> rfl) (fun _ => rfl)
    simp [NativeCall.givesBack, found]
  | some opened =>
    obtain rfl := handle?_id found
    have member : opened ∈ bus.handles := List.mem_of_find?_eq_some found
    let taken : Bus :=
      { bus.record .closeHandle with handles := bus.handles.filter (·.id ≠ opened.id) }
    have takes : bus.Takes .handles opened.id taken := by
      refine ⟨List.mem_map_of_mem member, fun other => ?_, fun other => by cases other <;> rfl,
        rfl, rfl, fun _ => rfl⟩
      cases other with
      | handles => simp [taken, Stock.live, List.filter_map, Function.comp_def]
      | contexts | lists | descriptors => rfl
    have intact : taken.Coherent :=
      (steady_journal _ _).coherent (coherent.dropHandle opened.id)
    refine frees.found takes intact (giveBack_debited ..) fun device => ?_
    have balance := taken.giveBack_balance .closeHandle opened.device device
    rw [takes.balance] at balance
    -- A live handle is bound to an attached device, so that a reference is given back to one.
    have gives : (NativeCall.closeHandle opened.id).givesBack bus device =
        decide (opened.device = device ∧ taken.Knows device) := by
      have known : opened.device = device → taken.Knows device := by
        rintro rfl
        exact coherent.bound opened member
      simpa [NativeCall.givesBack, found] using known
    rw [gives]
    exact (congrArg (· + _) balance).trans (Int.sub_add_cancel ..)

/-! ## References taken and given back by name -/

theorem refDevice_fair (coherent : bus.Coherent) (device : Address) :
    Fair (.refDevice device) bus ((NativeCall.refDevice device).after bus) := by
  have recorded : (bus.record .refDevice).device? device = bus.device? device := rfl
  show Fair _ bus (bus.refDevice device)
  unfold refDevice
  dsimp only
  rw [recorded]
  cases found : bus.device? device with
  | none =>
    have missing : ¬ bus.Knows device := Keyed.find?_eq_none_iff.mp found
    refine Aside.fair ((bus.aside_report rfl).record ..) ⟨fun other => ?_, fun _ => rfl,
      fun other => by cases other <;> rfl, fun other => by cases other <;> rfl⟩ coherent
    refine decide_eq_false ?_
    rintro ⟨rfl, known⟩
    exact missing known
  | some attached =>
    have known := knows_of_device? found
    have debited := bus.modifyReferences_debited device (· + 1)
    refine Fair.steady ⟨debited.coherent coherent, debited.ids, fun other => ?_, fun stock => ?_⟩
      (steady_journal (bus.modifyReferences device (· + 1)) _)
    · rw [balance_modify, balance]
      by_cases same : device = other
      · subst same
        simp [NativeCall.acquires, NativeCall.givesBack, known]
        omega
      · simp [NativeCall.acquires, NativeCall.givesBack, same, Ne.symm same]
    · exact .idle (by cases stock <;> rfl) (by cases stock <;> rfl) (debited.live stock)
        (Nat.le_of_eq (debited.next stock).symm) (debited.unknown stock)

theorem unrefDevice_fair (coherent : bus.Coherent) (device : Address) :
    Fair (.unrefDevice device) bus ((NativeCall.unrefDevice device).after bus) := by
  have recorded := bus.steady_journal (bus.record .unrefDevice).journal
  have debited := (bus.record .unrefDevice).giveBack_debited .unrefDevice device
  refine ⟨debited.coherent (recorded.coherent coherent), debited.ids, fun other => ?_,
    fun stock => ?_⟩
  · have balance := (bus.record .unrefDevice).giveBack_balance .unrefDevice device other
    have same : (bus.record .unrefDevice).balance other = bus.balance other := rfl
    rw [same] at balance
    exact (congrArg (· + _) balance).trans
      ((Int.sub_add_cancel ..).trans (Int.add_zero _).symm)
  · exact .idle (by cases stock <;> rfl) (by cases stock <;> rfl)
      ((debited.live stock).trans (recorded.live stock))
      (Nat.le_of_eq ((debited.next stock).trans (recorded.next stock)).symm)
      ((debited.unknown stock).trans (recorded.unknown stock))

/-! ## Every call -/

theorem quiet_aside (quiet : call.isQuiet) (bus : Bus) : bus.Aside (call.after bus) := by
  have kept := (Steady.refl bus).aside
  cases call with
  | initLibrary | exitLibrary | getDeviceList | freeDeviceList | refDevice | unrefDevice
  | openDevice | wrapSystemDevice | closeHandle | getConfigDescriptor | freeConfigDescriptor =>
    contradiction
  | getDevice handle =>
    show bus.Aside (bus.getDevice handle).2
    unfold getDevice
    dsimp only
    split
    · exact kept.record ..
    · exact (bus.aside_report rfl).record ..
  | getDeviceDescriptor device =>
    exact answering_aside (withDevice_aside fun _ => kept)
  | claimInterface handle interface =>
    refine answering_aside (withHandle_aside nofun fun _ => ?_)
    split
    · exact kept
    · split
      · exact kept
      · exact bus.modifyHandle_aside handle fun _ => rfl
  | releaseInterface handle interface =>
    refine answering_aside (withHandle_aside nofun fun _ => ?_)
    split
    · exact bus.modifyHandle_aside handle fun _ => rfl
    · exact kept
  | setConfiguration handle value =>
    exact answering_aside
      (withHandle_aside nofun fun _ => bus.modifyHandle_aside handle fun _ => rfl)
  | getConfiguration handle => exact answering_aside (withHandle_aside nofun fun _ => kept)
  | setAutoDetach handle enable => exact answering_aside (withHandle_aside nofun fun _ => kept)
  | getBusNumber device => exact bus.readByte_aside ..
  | getDeviceAddress device => exact bus.readByte_aside ..
  | getPortNumbers device capacity =>
    refine answering_aside (withDevice_aside fun _ => ?_)
    dsimp only
    split <;> exact kept

/-- Whatever it is handed, a native call does what it counts for or is taken down as a misuse. -/
theorem perform_fair (coherent : bus.Coherent) (call : NativeCall) :
    Fair call bus (call.after bus) := by
  cases call with
  | initLibrary => exact initLibrary_fair coherent
  | exitLibrary context => exact exitLibrary_fair coherent context
  | getDeviceList context => exact getDeviceList_fair coherent context
  | freeDeviceList list unref => exact freeDeviceList_fair coherent list unref
  | refDevice device => exact refDevice_fair coherent device
  | unrefDevice device => exact unrefDevice_fair coherent device
  | openDevice device => exact openDevice_fair coherent device
  | wrapSystemDevice context systemHandle =>
    exact wrapSystemDevice_fair coherent context systemHandle
  | closeHandle handle => exact closeHandle_fair coherent handle
  | getConfigDescriptor device index => exact getConfigDescriptor_fair coherent device index
  | freeConfigDescriptor descriptor => exact freeConfigDescriptor_fair coherent descriptor
  | _ => exact (quiet_aside rfl bus).fair (NativeCall.isQuiet.idle rfl bus) coherent

end UsbHost.Bus
