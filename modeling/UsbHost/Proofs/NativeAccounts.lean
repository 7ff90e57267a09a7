import UsbHost.Proofs.CallRecords

/-!
# Accounts of native calls

What a native call counts for is read off the call, the bus that it is made on, and what it
answers: the devices that it takes a reference to or gives one back of, what it makes, and what it
is to free. A call may be handed anything at all. Whatever it is handed, the bus either does what
the call counts for or takes the call down as a misuse.
-/

set_option autoImplicit false

namespace UsbHost

instance (bus : Bus) (device : Address) : Decidable (bus.Knows device) :=
  inferInstanceAs (Decidable (device ∈ bus.devices.map AttachedDevice.id))

/-! ## References -/

namespace NativeCall

def openedOn? (call : NativeCall) (bus : Bus) : Option Address :=
  match call, call.answer bus with
  | .openDevice _, .created reply | .wrapSystemDevice .., .created reply =>
    (reply.out.bind (call.after bus).handle?).map OpenHandle.device
  | _, _ => none

/-- Whether a call takes a reference to an attached device: by name, by an enumeration that no
injected code answers, or for a handle that it creates. -/
def acquires (call : NativeCall) (bus : Bus) (device : Address) : Bool :=
  match call with
  | .refDevice named => named = device ∧ bus.Knows device
  | .getDeviceList _ => bus.injected .getDeviceList = none ∧ bus.Knows device
  | _ => call.openedOn? bus = some device

/-- Whether a call is to give back a reference to an attached device: by name, by closing a live
handle, or by freeing a live array together with the references of its entries. -/
def givesBack (call : NativeCall) (bus : Bus) (device : Address) : Bool :=
  match call with
  | .unrefDevice named => named = device ∧ bus.Knows device
  | .closeHandle handle => (bus.handle? handle).map OpenHandle.device = some device
  | .freeDeviceList list unref => unref ≠ 0 ∧ ∃ array ∈ bus.array? list, device ∈ array.entries
  | _ => false

end NativeCall

def Misuse.isUnderflowOf (device : Address) : Misuse → Bool
  | .referenceUnderflow _ named => named = device
  | _ => false

/-- How many references to a device there are, less those that were given back in excess. -/
def Bus.balance (bus : Bus) (device : Address) : Int :=
  bus.references device - bus.misuse.countP (Misuse.isUnderflowOf device)

/-! ## Stocks -/

/-- A kind of resource that one call makes and another one frees. -/
inductive Stock where
  | contexts
  | lists
  | handles
  | descriptors
  deriving DecidableEq, Repr

namespace Stock

def live (stock : Stock) (bus : Bus) : List Nat :=
  match stock with
  | contexts => bus.contexts
  | lists => bus.lists.map DeviceArray.block
  | handles => bus.handles.map OpenHandle.id
  | descriptors => bus.descriptors

def next (stock : Stock) (bus : Bus) : Nat :=
  match stock with
  | contexts | handles => bus.nextAddress
  | lists | descriptors => bus.nextBlock

/-- The number of the resource that a call makes, by what the call answers. -/
def made? (stock : Stock) (call : NativeCall) (bus : Bus) : Option Nat :=
  match stock, call, call.answer bus with
  | contexts, .initLibrary, .created reply => reply.out
  | lists, .getDeviceList _, .array reply => reply.out.map DeviceArray.block
  | handles, .openDevice _, .created reply | handles, .wrapSystemDevice .., .created reply =>
    reply.out
  | descriptors, .getConfigDescriptor .., .config reply =>
    reply.out.bind fun pointer => match pointer.ref with
      | .block serial => some serial
      | .foreign _ => none
  | _, _, _ => none

def isFreedBy (stock : Stock) (call : NativeCall) : Bool :=
  match stock, call with
  | contexts, .exitLibrary _ | lists, .freeDeviceList .. | handles, .closeHandle _
  | descriptors, .freeConfigDescriptor _ => true
  | _, _ => false

/-- Whether the misuse is a call to free something that is not a live resource of a kind. -/
def isUnknown (stock : Stock) (misuse : Misuse) : Bool :=
  match stock, misuse with
  | contexts, .unknownContext _ | lists, .unknownList _
  | handles, .unknownHandle .closeHandle _ | descriptors, .unknownDescriptor _ => true
  | _, _ => false

def unknown (stock : Stock) (bus : Bus) : Nat := bus.misuse.countP stock.isUnknown

inductive Turn (stock : Stock) (call : NativeCall) (bus after : Bus) : Prop where
  | idle : stock.made? call bus = none → stock.isFreedBy call = false →
      stock.live after = stock.live bus → stock.next bus ≤ stock.next after →
      stock.unknown after = stock.unknown bus → Turn stock call bus after
  | made : stock.made? call bus = some (stock.next bus) → stock.isFreedBy call = false →
      stock.live after = stock.live bus ++ [stock.next bus] → stock.next bus < stock.next after →
      stock.unknown after = stock.unknown bus → Turn stock call bus after
  | freed (number : Nat) : stock.made? call bus = none → stock.isFreedBy call →
      number ∈ stock.live bus → stock.live after = (stock.live bus).filter (· ≠ number) →
      stock.next bus ≤ stock.next after →
      stock.unknown after = stock.unknown bus → Turn stock call bus after
  | missed : stock.made? call bus = none → stock.isFreedBy call →
      stock.live after = stock.live bus → stock.next bus ≤ stock.next after →
      stock.unknown after = stock.unknown bus + 1 → Turn stock call bus after

/-- The turn of a stock shows in nothing but what is alive of it, what is next, and its misuses. -/
theorem Turn.congr {stock : Stock} {call : NativeCall} {bus expected after : Bus}
    (turn : stock.Turn call bus expected) (live : stock.live after = stock.live expected)
    (next : stock.next after = stock.next expected)
    (unknown : stock.unknown after = stock.unknown expected) : stock.Turn call bus after := by
  cases turn with
  | idle made freed same later count =>
    exact .idle made freed (live.trans same) (next ▸ later) (unknown.trans count)
  | made made freed same later count =>
    exact .made made freed (live.trans same) (next ▸ later) (unknown.trans count)
  | freed number made freed member same later count =>
    exact .freed number made freed member (live.trans same) (next ▸ later) (unknown.trans count)
  | missed made freed same later count =>
    exact .missed made freed (live.trans same) (next ▸ later) (unknown.trans count)

end Stock

namespace Bus

/-- Every number was handed out once, and nothing refers to a device that is not attached. -/
structure Coherent (bus : Bus) : Prop extends Orderly bus where
  listed : ∀ array ∈ bus.lists, ∀ device ∈ array.entries, bus.Knows device
  bound : ∀ opened ∈ bus.handles, bus.Knows opened.device

/-- What a call did to a bus is what the call counts for. -/
structure Fair (call : NativeCall) (bus after : Bus) : Prop where
  coherent : after.Coherent
  ids : after.devices.map AttachedDevice.id = bus.devices.map AttachedDevice.id
  balance : ∀ device, after.balance device + (call.givesBack bus device).toNat =
    bus.balance device + (call.acquires bus device).toNat
  stocks : ∀ stock : Stock, stock.Turn call bus after

variable {bus after : Bus} {device : Address}

theorem coherent_nothing : Coherent {} where
  toOrderly := orderly_nothing
  listed := List.forall_mem_nil _
  bound := List.forall_mem_nil _

theorem knows_of_device? {bus : Bus} {device : Address} {attached : AttachedDevice}
    (found : bus.device? device = some attached) : bus.Knows device :=
  Keyed.find?_isSome_iff.mp (Option.isSome_iff_exists.mpr ⟨attached, found⟩)

theorem references_modify (bus : Bus) (device other : Address) (change : Nat → Nat) :
    (bus.modifyReferences device change).references other =
      if other = device ∧ bus.Knows other then change (bus.references other)
      else bus.references other := by
  unfold references
  rw [modifyReferences_device?]
  cases found : bus.device? other with
  | none =>
    have missing : ¬ bus.Knows other := Keyed.find?_eq_none_iff.mp found
    simp [missing]
  | some attached =>
    have known := knows_of_device? found
    have same : attached.id = other := by simpa [device?] using List.find?_some found
    simp only [Option.map_some, Option.elim_some, same, known, and_true]
    split <;> rfl

theorem Steady.references {bus after : Bus} (steady : bus.Steady after) (device : Address) :
    after.references device = bus.references device := by
  rw [Bus.references, Bus.references, device?, device?, steady.devices]

theorem Steady.coherent (steady : bus.Steady after) (coherent : bus.Coherent) :
    after.Coherent where
  toOrderly := steady.orderly coherent.toOrderly
  listed := by simpa only [Knows, steady.lists, steady.devices] using coherent.listed
  bound := by
    have bound := coherent.bound
    rw [bound_iff] at bound ⊢
    simpa only [Knows, steady.devices, steady.seats] using bound

theorem Steady.balance (steady : bus.Steady after) (device : Address) :
    after.balance device = bus.balance device := by
  rw [Bus.balance, Bus.balance, steady.references, steady.misuse]

theorem Steady.live (steady : bus.Steady after) (stock : Stock) :
    stock.live after = stock.live bus := by
  cases stock with
  | contexts => exact steady.contexts
  | lists => exact congrArg (List.map DeviceArray.block) steady.lists
  | handles => simp only [Stock.live, map_id_eq, steady.seats]
  | descriptors => exact steady.descriptors

theorem Steady.next (steady : bus.Steady after) (stock : Stock) :
    stock.next after = stock.next bus := by
  cases stock with
  | contexts | handles => exact steady.nextAddress
  | lists | descriptors => exact steady.nextBlock

theorem Steady.unknown (steady : bus.Steady after) (stock : Stock) :
    stock.unknown after = stock.unknown bus := by
  rw [Stock.unknown, Stock.unknown, steady.misuse]

end Bus

/-! ## Calls that count for nothing -/

def Misuse.isIdle : Misuse → Bool
  | .unknownDevice .. => true
  | .unknownHandle function _ => function ≠ .closeHandle
  | _ => false

/-- A call takes and gives back no reference, and makes and frees nothing. -/
structure NativeCall.Idle (call : NativeCall) (bus : Bus) : Prop where
  acquires : ∀ device, call.acquires bus device = false
  givesBack : ∀ device, call.givesBack bus device = false
  made : ∀ stock : Stock, stock.made? call bus = none
  freed : ∀ stock : Stock, stock.isFreedBy call = false

/-- Whether a call only looks at a device or a handle, or changes what is claimed or configured
through a handle. -/
def NativeCall.isQuiet : NativeCall → Bool
  | getDevice _ | getDeviceDescriptor _ | claimInterface .. | releaseInterface ..
  | setConfiguration .. | getConfiguration _ | setAutoDetach .. | getBusNumber _
  | getDeviceAddress _ | getPortNumbers .. => true
  | _ => false

theorem NativeCall.isQuiet.idle {call : NativeCall} (quiet : call.isQuiet) (bus : Bus) :
    call.Idle bus := by
  cases call with
  | initLibrary | exitLibrary | getDeviceList | freeDeviceList | refDevice | unrefDevice
  | openDevice | wrapSystemDevice | closeHandle | getConfigDescriptor | freeConfigDescriptor =>
    contradiction
  | _ =>
    exact ⟨fun _ => rfl, fun _ => rfl, fun stock => by cases stock <;> rfl,
      fun stock => by cases stock <;> rfl⟩

theorem Misuse.isUnderflowOf_idle {misuse : Misuse} (idle : misuse.isIdle) (device : Address) :
    misuse.isUnderflowOf device = false := by
  cases misuse <;> first | rfl | contradiction

theorem Stock.isUnknown_idle (stock : Stock) {misuse : Misuse} (idle : misuse.isIdle) :
    stock.isUnknown misuse = false := by
  cases misuse with
  | unknownHandle function handle =>
    cases stock <;> cases function <;> first | rfl | contradiction
  | unknownDevice function device => cases stock <;> rfl
  | unknownContext | unknownList | unknownDescriptor | referenceUnderflow => contradiction

namespace Bus

variable {α : Type} {bus after : Bus} {device : Address} {function : NativeFunction}

/-- Nothing that is accounted for differs; a misuse may have been taken down. -/
def Aside (bus after : Bus) : Prop :=
  ∃ misuse : List Misuse, (∀ entry ∈ misuse, entry.isIdle) ∧
    { bus with misuse := bus.misuse ++ misuse }.Steady after

theorem Steady.aside (steady : bus.Steady after) : bus.Aside after :=
  ⟨[], List.forall_mem_nil _, by simpa using steady⟩

theorem Aside.record (aside : bus.Aside after) (function : NativeFunction)
    (argument returned : Option Int) :
    bus.Aside (after.record function argument returned) := by
  obtain ⟨misuse, idle, steady⟩ := aside
  exact ⟨misuse, idle, steady.trans (after.steady_journal _)⟩

theorem aside_report (bus : Bus) {misuse : Misuse} (idle : misuse.isIdle) :
    bus.Aside (bus.report misuse) :=
  ⟨[misuse], by simpa using idle, .refl _⟩

theorem answering_aside {argument injected : Option Int} {body : Reply α × Bus}
    (otherwise : bus.Aside body.2) :
    bus.Aside (bus.answering function argument injected body).2 := by
  rcases bus.answering_cases function argument injected body with ⟨code, -, same⟩ | ⟨-, same⟩
  · rw [same]
    exact (Steady.refl bus).aside.record ..
  · rw [same]
    exact otherwise.record ..

theorem withDevice_aside {body : AttachedDevice → Reply α × Bus}
    (present : ∀ attached, bus.Aside (body attached).2) :
    bus.Aside (bus.withDevice function device body).2 := by
  unfold withDevice
  split
  · exact present _
  · exact bus.aside_report rfl

theorem withHandle_aside {handle : Address} {body : OpenHandle → Reply α × Bus}
    (freesNothing : function ≠ .closeHandle)
    (present : ∀ opened, bus.Aside (body opened).2) :
    bus.Aside (bus.withHandle function handle body).2 := by
  unfold withHandle
  split
  · exact present _
  · exact bus.aside_report (by simpa [Misuse.isIdle] using freesNothing)

theorem modifyHandle_aside (bus : Bus) (handle : Address) {change : OpenHandle → OpenHandle}
    (same : ∀ opened, (change opened).seat = opened.seat) :
    bus.Aside (bus.modifyHandle handle change) :=
  Steady.aside ⟨rfl, rfl, rfl, rfl, rfl, rfl, rfl, bus.modifyHandle_view handle _ same⟩

theorem readByte_aside (bus : Bus) (function : NativeFunction) (device : Address)
    (byte : DeviceInfo → UInt8) : bus.Aside (bus.readByte function device byte).2 := by
  have recorded : bus.Aside (bus.record function) := (Steady.refl bus).aside.record ..
  unfold readByte
  dsimp only
  split
  · exact recorded
  · exact ((bus.aside_report rfl).record function none none)

theorem Fair.steady {call : NativeCall} {expected : Bus} (fair : Fair call bus expected)
    (steady : expected.Steady after) : Fair call bus after where
  coherent := steady.coherent fair.coherent
  ids := by rw [steady.devices, fair.ids]
  balance device := by rw [steady.balance, fair.balance]
  stocks stock :=
    (fair.stocks stock).congr (steady.live stock) (steady.next stock) (steady.unknown stock)

/-- A call that counts for nothing may leave the accounts aside. -/
theorem Aside.fair {call : NativeCall} (aside : bus.Aside after) (idle : call.Idle bus)
    (coherent : bus.Coherent) : Fair call bus after := by
  obtain ⟨misuse, harmless, steady⟩ := aside
  refine Fair.steady ⟨?_, ?_, fun device => ?_, fun stock => ?_⟩ steady
  · exact { coherent with toOrderly := { coherent.toOrderly with } }
  · rfl
  · have noUnderflow : misuse.countP (Misuse.isUnderflowOf device) = 0 := by
      rw [List.countP_eq_zero]
      intro entry member
      simp [Misuse.isUnderflowOf_idle (harmless entry member)]
    rw [idle.acquires, idle.givesBack, balance, balance, List.countP_append, noUnderflow]
    rfl
  · have noUnknown : misuse.countP stock.isUnknown = 0 := by
      rw [List.countP_eq_zero]
      intro entry member
      simp [stock.isUnknown_idle (harmless entry member)]
    refine .idle (idle.made stock) (idle.freed stock) ?_ ?_ ?_
    · cases stock <;> rfl
    · cases stock <;> exact Nat.le_refl _
    · rw [Stock.unknown, Stock.unknown, List.countP_append, noUnknown, Nat.add_zero]

/-! ## Giving references back -/

/-- Nothing that is accounted for differs but references to devices. -/
structure Debited (bus after : Bus) : Prop where
  nextAddress : after.nextAddress = bus.nextAddress
  nextBlock : after.nextBlock = bus.nextBlock
  contexts : after.contexts = bus.contexts
  ids : after.devices.map AttachedDevice.id = bus.devices.map AttachedDevice.id
  handles : after.handles = bus.handles
  lists : after.lists = bus.lists
  descriptors : after.descriptors = bus.descriptors
  misuse : ∃ noted, after.misuse = bus.misuse ++ noted ∧
    ∀ entry ∈ noted, ∀ stock : Stock, stock.isUnknown entry = false

theorem Debited.refl (bus : Bus) : bus.Debited bus :=
  ⟨rfl, rfl, rfl, rfl, rfl, rfl, rfl, [], by simp, List.forall_mem_nil _⟩

theorem Debited.trans {last : Bus} (first : bus.Debited after) (second : after.Debited last) :
    bus.Debited last where
  nextAddress := second.nextAddress.trans first.nextAddress
  nextBlock := second.nextBlock.trans first.nextBlock
  contexts := second.contexts.trans first.contexts
  ids := second.ids.trans first.ids
  handles := second.handles.trans first.handles
  lists := second.lists.trans first.lists
  descriptors := second.descriptors.trans first.descriptors
  misuse := by
    obtain ⟨noted, same, known⟩ := first.misuse
    obtain ⟨later, sameLater, knownLater⟩ := second.misuse
    exact ⟨noted ++ later, by rw [sameLater, same, List.append_assoc],
      List.forall_mem_append.mpr ⟨known, knownLater⟩⟩

theorem Debited.knows (debited : bus.Debited after) : after.Knows device ↔ bus.Knows device := by
  rw [Knows, Knows, debited.ids]

theorem Debited.coherent (debited : bus.Debited after) (coherent : bus.Coherent) :
    after.Coherent where
  contexts := by simpa only [debited.contexts, debited.nextAddress] using coherent.contexts
  devices := by simpa only [debited.ids, debited.nextAddress] using coherent.devices
  handles := by simpa only [debited.handles, debited.nextAddress] using coherent.handles
  lists := by simpa only [debited.lists, debited.nextBlock] using coherent.lists
  descriptors := by simpa only [debited.descriptors, debited.nextBlock] using coherent.descriptors
  entries := by simpa only [debited.lists] using coherent.entries
  started := by simpa only [debited.nextAddress] using coherent.started
  nonNull device known := coherent.nonNull device (debited.knows.mp known)
  listed := by simpa only [debited.lists, debited.knows] using coherent.listed
  bound := by simpa only [debited.handles, debited.knows] using coherent.bound

theorem Debited.live (debited : bus.Debited after) (stock : Stock) :
    stock.live after = stock.live bus := by
  cases stock with
  | contexts => exact debited.contexts
  | lists => exact congrArg (List.map DeviceArray.block) debited.lists
  | handles => exact congrArg (List.map OpenHandle.id) debited.handles
  | descriptors => exact debited.descriptors

theorem Debited.next (debited : bus.Debited after) (stock : Stock) :
    stock.next after = stock.next bus := by
  cases stock with
  | contexts | handles => exact debited.nextAddress
  | lists | descriptors => exact debited.nextBlock

theorem Debited.unknown (debited : bus.Debited after) (stock : Stock) :
    stock.unknown after = stock.unknown bus := by
  obtain ⟨noted, same, known⟩ := debited.misuse
  have none : noted.countP stock.isUnknown = 0 := by
    rw [List.countP_eq_zero]
    intro entry member
    simp [known entry member stock]
  rw [Stock.unknown, Stock.unknown, same, List.countP_append, none, Nat.add_zero]

theorem modifyReferences_debited (bus : Bus) (device : Address) (change : Nat → Nat) :
    bus.Debited (bus.modifyReferences device change) :=
  ⟨rfl, rfl, rfl, modifyReferences_ids .., rfl, rfl, rfl, [], by simp [modifyReferences],
    List.forall_mem_nil _⟩

theorem giveBack_debited (bus : Bus) (function : NativeFunction) (device : Address) :
    bus.Debited (bus.giveBack function device) := by
  have noted : ∀ misuse : Misuse, (∀ stock : Stock, stock.isUnknown misuse = false) →
      bus.Debited (bus.report misuse) := by
    intro misuse known
    exact ⟨rfl, rfl, rfl, rfl, rfl, rfl, rfl, [misuse], rfl, by simpa using known⟩
  unfold giveBack
  split
  · exact noted _ fun stock => by cases stock <;> rfl
  · split
    · exact noted _ fun stock => by cases stock <;> rfl
    · exact bus.modifyReferences_debited ..

theorem giveBackAll_debited (bus : Bus) (function : NativeFunction) (entries : List Address) :
    bus.Debited (entries.foldl (fun bus device => bus.giveBack function device) bus) := by
  induction entries generalizing bus with
  | nil => exact .refl bus
  | cons device rest ih => exact (bus.giveBack_debited function device).trans (ih _)

theorem balance_modify (bus : Bus) (device other : Address) (change : Nat → Nat) :
    (bus.modifyReferences device change).balance other =
      (if other = device ∧ bus.Knows other then change (bus.references other)
        else bus.references other : Nat) - bus.misuse.countP (Misuse.isUnderflowOf other) := by
  rw [balance, references_modify]
  rfl

/-- Giving back a reference to an attached device is always seen: as one reference less, or as one
that was given back in excess. -/
theorem giveBack_balance (bus : Bus) (function : NativeFunction) (device other : Address) :
    (bus.giveBack function device).balance other =
      bus.balance other - (decide (device = other ∧ bus.Knows other)).toNat := by
  unfold giveBack
  split
  · next missing =>
    have unknown : ¬ bus.Knows device := Keyed.find?_eq_none_iff.mp missing
    have none : ¬ (device = other ∧ bus.Knows other) := by
      rintro ⟨rfl, known⟩
      exact unknown known
    simp [none, balance, report, references, device?, Misuse.isUnderflowOf]
  · next attached found =>
    have known := knows_of_device? found
    have count : bus.references device = attached.references := by rw [references, found]; rfl
    split
    · by_cases same : device = other
      · subst same
        simp [known, balance, report, references, device?, Misuse.isUnderflowOf]
        omega
      · simp [same, balance, report, references, device?, Misuse.isUnderflowOf]
    · next positive =>
      rw [balance_modify, balance]
      by_cases same : device = other
      · subst same
        simp [known, count]
        omega
      · simp [same, Ne.symm same]

theorem giveBackAll_balance (bus : Bus) (function : NativeFunction) {entries : List Address}
    (distinct : entries.Nodup) (other : Address) :
    (entries.foldl (fun bus device => bus.giveBack function device) bus).balance other =
      bus.balance other - (decide (other ∈ entries ∧ bus.Knows other)).toNat := by
  induction entries generalizing bus with
  | nil => simp
  | cons device rest ih =>
    obtain ⟨apart, distinctRest⟩ := List.nodup_cons.mp distinct
    rw [List.foldl_cons, ih _ distinctRest, giveBack_balance]
    simp only [(bus.giveBack_debited function device).knows]
    by_cases same : device = other
    · subst same
      simp [apart]
    · simp [same, Ne.symm same]

end Bus

end UsbHost
