import UsbHost.Proofs.Positions

/-!
# Looking a device up by its path

A list is searched entry by entry: a reference to the device is taken, its path is read, and the
reference is given back unless the path is the one sought. Which entries are looked at, which calls
are made for them and what is found follows from the paths alone, and these are known beforehand.
-/

set_option autoImplicit false

namespace UsbHost

variable {world : World} {library : Library} {device raw : Address} {path : String}
  {attached : AttachedDevice} {code : Int}

namespace Bus

/-- The code with which the reading of a device's ports fails, if it does. -/
def unreadable? (bus : Bus) (device : Address) : Option Int :=
  (bus.device? device).bind bus.portFailure?

/-- The path that is read of a device; an unreadable one has none. -/
def path? (bus : Bus) (device : Address) : Option String :=
  if bus.unreadable? device = none then
    (bus.device? device).map fun attached =>
      Device.position attached.info.bus attached.info.ports
  else none

/-- What the call that reads the ports of a device answers. -/
def portCode (bus : Bus) (device : Address) : Int :=
  (bus.unreadable? device).getD
    ((bus.device? device).elim 0 fun attached => attached.info.ports.length)

/-- The calls that reading a path makes. -/
def pathCalls (bus : Bus) (device : Address) : List JournalEntry :=
  { function := .getPortNumbers, returned := some (bus.portCode device) } ::
    (bus.path? device).toList.map fun _ => { function := .getBusNumber }

theorem unreadable?_found {bus : Bus} (found : bus.device? device = some attached) :
    bus.unreadable? device = bus.portFailure? attached := by
  rw [unreadable?, found]
  rfl

theorem getPortNumbers_eq {bus : Bus} (found : bus.device? device = some attached) :
    bus.getPortNumbers device maxPortNumbers =
      (match bus.unreadable? device with
        | some code => { code }
        | none => { code := attached.info.ports.length, out := some attached.info.ports },
        bus.record .getPortNumbers none (some (bus.portCode device))) := by
  have reply := getPortNumbers_reply found
  have code : (bus.getPortNumbers device maxPortNumbers).1.code = bus.portCode device := by
    rw [reply, portCode, unreadable?_found found, found]
    cases bus.portFailure? attached <;> rfl
  have recorded : (bus.getPortNumbers device maxPortNumbers).2 =
      bus.record .getPortNumbers none (some (bus.getPortNumbers device maxPortNumbers).1.code) := by
    unfold getPortNumbers checked
    rw [withDevice_found found]
    cases bus.injected .getPortNumbers with
    | some code => rfl
    | none =>
      dsimp only [answering]
      split <;> rfl
  rw [code] at recorded
  rw [← unreadable?_found found] at reply
  exact Prod.ext reply recorded

theorem path?_readable {bus : Bus} (found : bus.device? device = some attached)
    (readable : bus.unreadable? device = none) :
    bus.path? device = some (Device.position attached.info.bus attached.info.ports) := by
  rw [path?, if_pos readable, found]
  rfl

theorem path?_unreadable {bus : Bus} (fails : bus.unreadable? device = some code) :
    bus.path? device = none := by
  rw [path?, fails]
  rfl

end Bus

namespace Library

/-- Who answers for the reading of ports. -/
def portGovernance (library : Library) : Governance :=
  library.governs "UsbDevice::port_numbers" library.policies.call

/-- What is logged when a path is read: one failure, if the device is unreadable. -/
def pathLines (library : Library) (bus : Bus) (device : Address) : Log :=
  (bus.unreadable? device).toList.map (library.portGovernance.report .getPortNumbers)

end Library

/-- The world after the path of a device was asked for. -/
def World.pathAsked (world : World) (library : Library) (device : Address) : World where
  bus := { world.bus with journal := world.bus.journal ++ world.bus.pathCalls device }
  log := world.log ++ library.pathLines world.bus device

namespace Device

variable {device : Device}

theorem path_unreadable (owned : device.owner.raw = some raw)
    (found : world.bus.device? raw = some attached) (raises : device.library.policies.call.raise)
    (fails : world.bus.unreadable? raw = some code) (negative : code < 0) :
    device.path world =
      .error (device.library.portGovernance.failure code) (world.pathAsked device.library raw) := by
  apply path_of_error
  have lines : device.library.portGovernance.lines .getPortNumbers code =
      [device.library.portGovernance.report .getPortNumbers code] := if_pos negative
  unfold portNumbers World.pathAsked Library.pathLines Bus.pathCalls Bus.portCode
  rw [requireRaw_bind owned]
  simp only [bind, EStateM.bind, Usb.invoke_eq, NativeApi.getPortNumbers,
    Bus.getPortNumbers_eq found, fails, Bus.path?_unreadable fails, negative, raises, and_self,
    if_true, Bus.portCode, Option.getD_some, Option.toList_none, Option.toList_some, List.map_nil,
    List.map_cons, ← lines]
  rfl

theorem path_readable (owned : device.owner.raw = some raw)
    (found : world.bus.device? raw = some attached) (readable : world.bus.unreadable? raw = none) :
    device.path world = .ok (position attached.info.bus attached.info.ports)
      (world.pathAsked device.library raw) := by
  have few : attached.info.ports.length ≤ maxPortNumbers := by
    rw [Bus.unreadable?_found found] at readable
    exact (Bus.portFailure?_eq_none.mp readable).2
  have counted : ¬ ((attached.info.ports.length : Int) < 0) :=
    Int.not_lt.mpr (Int.natCast_nonneg _)
  have silent : device.library.portGovernance.lines .getPortNumbers attached.info.ports.length =
      [] := if_neg counted
  have asked : device.portNumbers world = .ok attached.info.ports
      { bus := world.bus.record .getPortNumbers none (some (world.bus.portCode raw))
        log := world.log ++ [] } := by
    rw [← silent, ← portsOf_written few]
    unfold portNumbers
    rw [requireRaw_bind owned]
    simp only [bind, EStateM.bind, Usb.invoke_eq, NativeApi.getPortNumbers,
      Bus.getPortNumbers_eq found, readable, counted, false_and, if_false]
    rfl
  have read := path_of_ports owned asked found
  rw [read]
  unfold World.pathAsked Library.pathLines Bus.pathCalls
  rw [readable, Bus.path?_readable found readable]
  simp [Bus.record]

end Device

/-! ## Looking at one entry -/

/-- The world after an entry was looked at and its reference kept. -/
def World.entryKept (world : World) (library : Library) (device : Address) : World where
  bus :=
    { world.bus.modifyReferences device (· + 1) with
      journal := world.bus.journal ++ ({ function := .refDevice } :: world.bus.pathCalls device) }
  log := world.log ++ library.pathLines world.bus device

/-- The world after an entry was looked at and its reference given back. -/
def World.entryPassed (world : World) (library : Library) (device : Address) : World where
  bus :=
    { world.bus with
      journal := world.bus.journal ++
        ({ function := .refDevice } :: world.bus.pathCalls device ++
          [{ function := .unrefDevice }]) }
  log := world.log ++ library.pathLines world.bus device

namespace Bus

variable {bus : Bus}

theorem refDevice_eq (found : bus.device? device = some attached) :
    bus.refDevice device =
      { bus.modifyReferences device (· + 1) with
        journal := bus.journal ++ [{ function := .refDevice }] } := by
  have recorded : (bus.record .refDevice).device? device = some attached := found
  rw [refDevice, recorded]
  rfl

theorem refDevice_device? (found : bus.device? device = some attached) :
    (bus.refDevice device).device? device =
      some { attached with references := attached.references + 1 } := by
  have same : attached.id = device := by simpa using List.find?_some found
  have taken : (bus.modifyReferences device (· + 1)).device? device =
      some { attached with references := attached.references + 1 } := by
    rw [modifyReferences_device?, found, Option.map_some, if_pos same]
  rw [refDevice_eq found]
  exact taken

/-- References have no bearing on what is read of a device. -/
theorem refDevice_unreadable? (found : bus.device? device = some attached) :
    (bus.refDevice device).unreadable? device = bus.unreadable? device := by
  rw [unreadable?_found (refDevice_device? found), unreadable?_found found, refDevice_eq found]
  rfl

theorem refDevice_path? (found : bus.device? device = some attached) :
    (bus.refDevice device).path? device = bus.path? device := by
  rw [path?, path?, refDevice_unreadable? found, refDevice_device? found, found]
  rfl

theorem refDevice_pathCalls (found : bus.device? device = some attached) :
    (bus.refDevice device).pathCalls device = bus.pathCalls device := by
  rw [pathCalls, pathCalls, portCode, portCode, refDevice_unreadable? found,
    refDevice_path? found, refDevice_device? found, found]
  rfl

theorem modifyReferences_undone (bus : Bus) (device : Address) :
    (bus.modifyReferences device (· + 1)).modifyReferences device (· - 1) = bus := by
  have restored : ((bus.modifyReferences device (· + 1)).modifyReferences device
      (· - 1)).devices = bus.devices := by
    simp only [modifyReferences, List.map_map]
    refine (List.map_congr_left fun attached _ => ?_).trans (List.map_id bus.devices)
    rw [Function.comp_apply]
    by_cases own : attached.id = device
    · subst own
      simp
    · simp [own]
  exact congrArg (fun devices => { bus with devices }) restored

/-- A reference that was just taken can be given back, and that undoes it. -/
theorem unrefDevice_taken (found : bus.device? device = some attached)
    (journal : List JournalEntry) :
    Bus.unrefDevice device { bus.modifyReferences device (· + 1) with journal } =
      { bus with journal := journal ++ [{ function := .unrefDevice }] } := by
  have taken : (bus.refDevice device).device? device = _ := refDevice_device? found
  rw [refDevice_eq found] at taken
  have recorded : (({ bus.modifyReferences device (· + 1) with journal } : Bus).record
      .unrefDevice).device? device = _ := taken
  rw [unrefDevice, giveBack, recorded]
  dsimp only
  rw [if_neg (Nat.succ_ne_zero _)]
  let ended (restored : Bus) : Bus :=
    { restored with journal := journal ++ [{ function := .unrefDevice }] }
  exact congrArg ended (modifyReferences_undone bus device)

end Bus

namespace DeviceList

/-- One entry is looked at; it is the answer if its path is the one sought, and otherwise the rest
is searched. -/
theorem findAmong_cons {rest : List Address} (found : world.bus.device? raw = some attached)
    (nonNull : raw ≠ 0)
    (failing : ∀ code, world.bus.unreadable? raw = some code →
      code < 0 ∧ library.policies.call.raise) :
    findAmong library path (raw :: rest) world =
      if world.bus.path? raw = some path then
        (some { library, owner := ⟨some raw⟩ }, world.entryKept library raw)
      else findAmong library path rest (world.entryPassed library raw) := by
  let device : Device := { library, owner := ⟨some raw⟩ }
  let held : World := { world with bus := world.bus.refDevice raw }
  have owned : device.owner.raw = some raw := rfl
  have made : Device.ofRaw library raw world = (device, held) := by
    simp only [Device.ofRaw, Device.referenced_eq, Device.takeReference, Address.owned?,
      if_neg nonNull]
    rfl
  have foundHeld : held.bus.device? raw = _ := Bus.refDevice_device? found
  have unreadableHeld : held.bus.unreadable? raw = world.bus.unreadable? raw :=
    Bus.refDevice_unreadable? found
  have kept : held.pathAsked library raw = world.entryKept library raw := by
    unfold World.pathAsked World.entryKept Library.pathLines
    rw [unreadableHeld, show held.bus.pathCalls raw = _ from Bus.refDevice_pathCalls found,
      show held.bus = _ from Bus.refDevice_eq found]
    simp [held]
  have passed : device.drop (world.entryKept library raw) = world.entryPassed library raw := by
    have given := Bus.unrefDevice_taken found
      (world.bus.journal ++ ({ function := .refDevice } :: world.bus.pathCalls raw))
    rw [List.append_assoc] at given
    exact congrArg (World.mk · _) given
  rw [findAmong, made]
  dsimp only
  cases readable : world.bus.unreadable? raw with
  | none =>
    have read := Device.path_readable owned foundHeld (unreadableHeld.trans readable)
    rw [read, kept, Bus.path?_readable found readable]
    simp [passed, device]
  | some code =>
    obtain ⟨negative, raises⟩ := failing code readable
    have refused := Device.path_unreadable owned foundHeld raises (unreadableHeld.trans readable)
      negative
    rw [refused, kept, Bus.path?_unreadable readable]
    simp [passed]

end DeviceList

/-! ## The whole search -/

namespace Bus

variable {bus : Bus}

/-- Whether the path of a device can be read and is `path`. -/
def isAt (bus : Bus) (path : String) (device : Address) : Bool :=
  bus.path? device == some path

/-- The first of the entries at a path. -/
def sought? (bus : Bus) (path : String) (entries : List Address) : Option Address :=
  entries.find? (bus.isAt path)

/-- The entries before the first one at a path; all of them if there is none. -/
def passedOver (bus : Bus) (path : String) (entries : List Address) : List Address :=
  entries.takeWhile fun device => !bus.isAt path device

theorem isAt_iff : bus.isAt path device ↔ bus.path? device = some path :=
  beq_iff_eq

theorem unreadable?_neg
    (negative : ∀ code, bus.injected .getPortNumbers = some code → code < 0)
    (fails : bus.unreadable? device = some code) : code < 0 := by
  obtain ⟨attached, -, failure⟩ := Option.bind_eq_some_iff.mp fails
  rcases Option.or_eq_some_iff.mp failure with injected | ⟨-, overflow⟩
  · exact negative code injected
  · split at overflow
    · cases overflow
      exact ErrorKind.overflow.code_neg
    · contradiction

end Bus

/-- What a search for a path among entries finds, and what becomes of the world. -/
structure DeviceList.Finds (library : Library) (path : String) (entries : List Address)
    (before : World) (result : Option Device) (after : World) : Prop where
  result : result = (before.bus.sought? path entries).map fun raw =>
    { library, owner := ⟨some raw⟩ }
  journal : after.bus.journal = before.bus.journal ++
    ((before.bus.passedOver path entries).flatMap fun raw =>
      { function := .refDevice } :: before.bus.pathCalls raw ++ [{ function := .unrefDevice }]) ++
    (before.bus.sought? path entries).toList.flatMap fun raw =>
      { function := .refDevice } :: before.bus.pathCalls raw
  log : after.log = before.log ++
    (before.bus.passedOver path entries).flatMap (library.pathLines before.bus)
  references : ∀ other, after.bus.references other = before.bus.references other +
    if before.bus.sought? path entries = some other then 1 else 0
  devices : after.bus.devices =
    ((before.bus.sought? path entries).elim before.bus
      (before.bus.modifyReferences · (· + 1))).devices
  rest : after.bus = { before.bus with devices := after.bus.devices, journal := after.bus.journal }

namespace DeviceList

variable {entries rest : List Address}

theorem finds_nothing : Finds library path [] world none world where
  result := rfl
  journal := by simp [Bus.passedOver, Bus.sought?]
  log := by simp [Bus.passedOver]
  references := fun _ => rfl
  devices := rfl
  rest := rfl

theorem finds_first (known : world.bus.Knows raw) (here : world.bus.isAt path raw) :
    Finds library path (raw :: rest) world (some { library, owner := ⟨some raw⟩ })
      (world.entryKept library raw) := by
  have first : world.bus.sought? path (raw :: rest) = some raw := List.find?_cons_of_pos here
  have none : world.bus.passedOver path (raw :: rest) = [] :=
    List.takeWhile_cons_of_neg (by simp [here])
  have readable : world.bus.unreadable? raw = Option.none := by
    by_contra fails
    have read := Bus.isAt_iff.mp here
    rw [Bus.path?, if_neg fails] at read
    contradiction
  constructor
  · rw [first]
    rfl
  · rw [first, none]
    simp [World.entryKept]
  · rw [none]
    simp [World.entryKept, Library.pathLines, readable]
  · intro other
    have taken : (world.entryKept library raw).bus.references other =
        if other = raw ∧ world.bus.Knows other then world.bus.references other + 1
        else world.bus.references other :=
      Bus.references_modify world.bus raw other (· + 1)
    rw [taken, first]
    by_cases own : other = raw
    · subst own
      rw [if_pos ⟨rfl, known⟩, if_pos rfl]
    · rw [if_neg fun same => own same.1, if_neg fun same => own (Option.some.inj same).symm]
      rfl
  · rw [first]
    rfl
  · rfl

theorem finds_later {result : Option Device} {after : World} (elsewhere : ¬ world.bus.isAt path raw)
    (later : Finds library path rest (world.entryPassed library raw) result after) :
    Finds library path (raw :: rest) world result after := by
  have sought : world.bus.sought? path (raw :: rest) = world.bus.sought? path rest :=
    List.find?_cons_of_neg elsewhere
  have passed : world.bus.passedOver path (raw :: rest) =
      raw :: world.bus.passedOver path rest :=
    List.takeWhile_cons_of_pos (by simpa using elsewhere)
  constructor
  · rw [sought]
    exact later.result
  · rw [sought, passed, later.journal, List.flatMap_cons, List.append_assoc, List.append_assoc,
      List.append_assoc, ← List.append_assoc world.bus.journal]
    rfl
  · rw [passed, later.log, List.flatMap_cons, ← List.append_assoc]
    rfl
  · rw [sought]
    exact later.references
  · have unmoved : (world.entryPassed library raw).bus.sought? path rest =
        world.bus.sought? path rest := rfl
    rw [sought, later.devices, unmoved]
    cases world.bus.sought? path rest <;> rfl
  · exact later.rest

/-- The first entry at the path is found, and only the entries before it are looked at besides. -/
theorem findAmong_finds (listed : ∀ raw ∈ entries, raw ≠ 0 ∧ world.bus.Knows raw)
    (failing : ∀ raw ∈ entries, ∀ code, world.bus.unreadable? raw = some code →
      code < 0 ∧ library.policies.call.raise) :
    Finds library path entries world (findAmong library path entries world).1
      (findAmong library path entries world).2 := by
  induction entries generalizing world with
  | nil => exact finds_nothing
  | cons raw rest searched =>
    obtain ⟨⟨nonNull, known⟩, others⟩ := List.forall_mem_cons.mp listed
    obtain ⟨fails, othersFail⟩ := List.forall_mem_cons.mp failing
    obtain ⟨attached, found⟩ := known.device?
    rw [findAmong_cons found nonNull fails]
    by_cases here : world.bus.isAt path raw
    · rw [if_pos (Bus.isAt_iff.mp here)]
      exact finds_first known here
    · rw [if_neg (mt Bus.isAt_iff.mpr here)]
      exact finds_later here (searched others othersFail)

end DeviceList

namespace Client

/-- In every reachable state a search through a list whose failures are raised finds the first
entry at the path, with one reference of its own, and looks at no entry after it. -/
theorem run_finds (acts : List Act) (permitted : fresh.Permitted .free acts) (list : DeviceList)
    (alive : .list list ∈ (fresh.run acts).session.owners)
    (raises : list.library.policies.call.raise)
    (negative : ∀ code,
      (fresh.run acts).session.world.bus.injected .getPortNumbers = some code → code < 0)
    (path : String) :
    let world := (fresh.run acts).session.world
    DeviceList.Finds list.library path list.entries world (list.findByPath path world).1
      (list.findByPath path world).2 := by
  intro world
  obtain ⟨-, kept⟩ := run_leads (fresh_kept rfl) acts permitted
  apply DeviceList.findAmong_finds
  · exact fun raw entry => kept.listed alive entry
  · exact fun raw _ code fails => ⟨Bus.unreadable?_neg negative fails, raises⟩

/-- A device that is too deep for its ports to be read, before two at the same position. -/
def searchedRun : List Act :=
  [.choose { policies := { call := { level := .warn, raise := true } } },
    .step (.control (.attach { ports := [1, 2, 3, 4, 5, 6, 7, 8] })),
    .step (.control (.attach { ports := [3] })), .step (.control (.attach { ports := [3] })),
    .step (.context (.start "context" .session)), .step (.list (.enumerate "list" "context"))]

theorem run_finds_first :
    let world := (fresh.run searchedRun).session.world
    let list : DeviceList :=
      { library := { policies := { call := { level := .warn, raise := true } } }
        array := some { block := 0, entries := [4096, 4112, 4128] }
        size := 3 }
    fresh.Permitted .free searchedRun ∧ .list list ∈ (fresh.run searchedRun).session.owners ∧
      world.bus.injected .getPortNumbers = none ∧ world.bus.passedOver "1.3" list.entries = [4096] ∧
      world.bus.unreadable? 4096 = some (-8) ∧
      world.bus.sought? "1.3" list.entries = some 4112 ∧
      DeviceList.Finds list.library "1.3" list.entries world (list.findByPath "1.3" world).1
        (list.findByPath "1.3" world).2 := by
  intro world list
  have permitted : fresh.Permitted .free searchedRun := by decide
  have alive : .list list ∈ (fresh.run searchedRun).session.owners :=
    @Resources.mem_of_find? _ .list "list" _ rfl
  have regular : world.bus.injected .getPortNumbers = none := by decide
  have finds := run_finds searchedRun permitted list alive rfl
    (fun _ injected => by simp [world, regular] at injected) "1.3"
  exact ⟨permitted, alive, regular, by decide, by decide, by decide, finds⟩

end Client

end UsbHost
