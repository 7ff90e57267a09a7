import UsbHost.Proofs.PathSearch

/-!
# What a path identifies

A path is the bus number and the ports in decimal, with a dot between any two. No number is
written with a dot, so that a path can be taken apart again, and it stands for one position. The one
exception are the devices without ports, which are written as if they had one port zero.
-/

set_option autoImplicit false

namespace UsbHost

/-! ## Numbers between dots -/

/-- The texts with a dot between any two. -/
def dotted (texts : List String) : String := ".".intercalate texts

def DotFree (text : String) : Prop := '.' ∉ text.toList

theorem dotFree_decimal (number : Nat) : DotFree (toString number) := by
  intro dot
  rw [Nat.toString_eq_ofList_toDigits, String.toList_ofList] at dot
  have digit := Nat.isDigit_of_mem_toDigits (by decide) (by decide) dot
  exact absurd digit (by decide)

theorem decimal_injective {number other : Nat} (same : toString number = toString other) :
    number = other := by
  have digits : Nat.toDigits 10 number = Nat.toDigits 10 other := by
    simpa only [Nat.toString_eq_ofList_toDigits, String.ofList_inj] using same
  rw [← Nat.ofDigitChars_ten_toDigits (n := number), digits, Nat.ofDigitChars_ten_toDigits]

/-- Texts without dots can be read off the dotted text. -/
theorem splitOn_dotted {texts : List String} (free : ∀ text ∈ texts, DotFree text)
    (nonempty : texts ≠ []) : (dotted texts).toList.splitOn '.' = texts.map String.toList := by
  rw [dotted, String.toList_intercalate]
  apply List.splitOn_intercalate
  · simpa [DotFree] using free
  · simpa using nonempty

theorem dotted_inj {texts others : List String} (free : ∀ text ∈ texts, DotFree text)
    (othersFree : ∀ text ∈ others, DotFree text) (nonempty : texts ≠ [])
    (othersNonempty : others ≠ []) (same : dotted texts = dotted others) : texts = others := by
  have split := splitOn_dotted free nonempty
  rw [same, splitOn_dotted othersFree othersNonempty] at split
  exact ((List.map_inj_right fun _ _ => String.toList_injective).mp split).symm

/-- Bytes in decimal, with a dot between any two. -/
def dottedDecimal (bytes : List UInt8) : String :=
  dotted (bytes.map fun byte => toString byte.toNat)

theorem dottedDecimal_inj {bytes others : List UInt8} (nonempty : bytes ≠ [])
    (othersNonempty : others ≠ []) :
    dottedDecimal bytes = dottedDecimal others ↔ bytes = others := by
  constructor
  · intro same
    have free (bytes : List UInt8) :
        ∀ text ∈ bytes.map fun byte => toString byte.toNat, DotFree text :=
      List.forall_mem_map.mpr fun byte _ => dotFree_decimal byte.toNat
    have decimals := dotted_inj (free bytes) (free others) (by simpa using nonempty)
      (by simpa using othersNonempty) same
    apply (List.map_inj_right _).mp decimals
    intro byte other equal
    exact UInt8.toNat_inj.mp (decimal_injective equal)
  · exact congrArg dottedDecimal

/-! ## Positions -/

/-- The ports that are written for a device; none are written as one port zero. -/
def portsWritten (ports : List UInt8) : List UInt8 :=
  if ports = [] then [0] else ports

theorem dottedDecimal_cons_cons (byte next : UInt8) (rest : List UInt8) :
    dottedDecimal (byte :: next :: rest) =
      toString byte.toNat ++ "." ++ dottedDecimal (next :: rest) :=
  String.intercalate_cons_cons

theorem dottedDecimal_cons (byte : UInt8) (bytes : List UInt8) :
    dottedDecimal (byte :: bytes) =
      toString byte.toNat ++ String.join (bytes.map fun byte => "." ++ toString byte.toNat) := by
  induction bytes generalizing byte with
  | nil => simp [dottedDecimal, dotted]
  | cons next rest ih =>
    rw [dottedDecimal_cons_cons, ih next, List.map_cons, String.join_cons]
    simp only [String.append_assoc]

theorem Device.position_eq_dotted (bus : UInt8) (ports : List UInt8) :
    position bus ports = dottedDecimal (bus :: portsWritten ports) := by
  rw [dottedDecimal_cons, position, portsWritten]
  split
  · congr 1
  · rfl

theorem portsWritten_eq_iff {ports others : List UInt8} :
    portsWritten ports = portsWritten others ↔
      ports = others ∨ (ports = [] ∧ others = [0]) ∨ (ports = [0] ∧ others = []) := by
  unfold portsWritten
  by_cases root : ports = [] <;> by_cases otherRoot : others = []
  · simp [root, otherRoot]
  · simp [root, otherRoot, eq_comm]
  · simp [root, otherRoot]
  · simp [root, otherRoot]

theorem Device.position_eq_iff {bus other : UInt8} {ports others : List UInt8} :
    position bus ports = position other others ↔
      bus = other ∧ (ports = others ∨ (ports = [] ∧ others = [0]) ∨
        (ports = [0] ∧ others = [])) := by
  rw [position_eq_dotted, position_eq_dotted,
    dottedDecimal_inj (List.cons_ne_nil _ _) (List.cons_ne_nil _ _), List.cons.injEq,
    portsWritten_eq_iff]

/-- Among ports that are not zero the position can be read off its text. -/
theorem Device.position_inj {bus other : UInt8} {ports others : List UInt8}
    (nonzero : 0 ∉ ports) (othersNonzero : 0 ∉ others)
    (same : position bus ports = position other others) : bus = other ∧ ports = others := by
  obtain ⟨sameBus, same | ⟨-, zero⟩ | ⟨zero, -⟩⟩ := position_eq_iff.mp same
  · exact ⟨sameBus, same⟩
  · exact absurd (zero ▸ List.mem_singleton_self 0) othersNonzero
  · exact absurd (zero ▸ List.mem_singleton_self 0) nonzero

/-! ## Reading and searching -/

/-- The value names a device at a position that can be read. -/
def Device.StandsAt (device : Device) (world : World) (bus : UInt8) (ports : List UInt8) : Prop :=
  ∃ raw attached, device.owner.raw = some raw ∧ world.bus.device? raw = some attached ∧
    attached.info.bus = bus ∧ attached.info.ports = ports ∧
    world.bus.injected .getPortNumbers = none ∧ ports.length ≤ maxPortNumbers

theorem Device.StandsAt.path_eq {device : Device} {world : World} {bus : UInt8}
    {ports : List UInt8} (stands : device.StandsAt world bus ports) :
    ∃ after, device.path world = .ok (position bus ports) after := by
  obtain ⟨raw, attached, owned, found, rfl, rfl, regular, few⟩ := stands
  have readable : world.bus.unreadable? raw = none := by
    rw [Bus.unreadable?_found found]
    exact Bus.portFailure?_eq_none.mpr ⟨regular, few⟩
  exact ⟨_, path_readable owned found readable⟩

/-- What a search finds stands at the position that the path is read from. -/
theorem DeviceList.Finds.standsAt {library : Library} {path : String} {entries : List Address}
    {before after : World} {found : Device}
    (finds : Finds library path entries before (some found) after) :
    ∃ bus ports, found.StandsAt before bus ports ∧ path = Device.position bus ports := by
  obtain ⟨raw, sought, rfl⟩ := Option.map_eq_some_iff.mp finds.result.symm
  have here := Bus.isAt_iff.mp (List.find?_some sought)
  unfold Bus.path? at here
  split at here
  · next readable =>
    obtain ⟨attached, known, rfl⟩ := Option.map_eq_some_iff.mp here
    rw [Bus.unreadable?_found known] at readable
    exact ⟨_, _, ⟨raw, attached, rfl, known, rfl, rfl, Bus.portFailure?_eq_none.mp readable⟩, rfl⟩
  · contradiction

namespace Device

/-- Two paths are equal if and only if the buses are and the ports are, no ports counting as one
port zero. What a search for the path of a device finds stands at the same position. -/
theorem path_identifies {first second : Device} {world other : World} {bus otherBus : UInt8}
    {ports otherPorts : List UInt8} (stands : first.StandsAt world bus ports)
    (otherStands : second.StandsAt other otherBus otherPorts) :
    ∃ path otherPath after otherAfter, first.path world = .ok path after ∧
      second.path other = .ok otherPath otherAfter ∧
      (path = otherPath ↔ bus = otherBus ∧
        (ports = otherPorts ∨ (ports = [] ∧ otherPorts = [0]) ∨
          (ports = [0] ∧ otherPorts = []))) ∧
      (0 ∉ ports → 0 ∉ otherPorts → path = otherPath → bus = otherBus ∧ ports = otherPorts) ∧
      ∀ acts, Client.fresh.Permitted .free acts →
        let searched := (Client.fresh.run acts).session.world
        ∀ list, .list list ∈ (Client.fresh.run acts).session.owners →
          (∀ raw ∈ list.entries, ∀ code, searched.bus.unreadable? raw = some code →
            code < 0 ∧ list.library.policies.call.raise) →
          ∀ found left, list.findByPath path searched = (some found, left) →
            ∃ foundBus foundPorts, found.StandsAt searched foundBus foundPorts ∧
              (0 ∉ ports → 0 ∉ foundPorts → foundBus = bus ∧ foundPorts = ports) := by
  obtain ⟨after, read⟩ := stands.path_eq
  obtain ⟨otherAfter, otherRead⟩ := otherStands.path_eq
  refine ⟨_, _, after, otherAfter, read, otherRead, position_eq_iff, position_inj, ?_⟩
  intro acts permitted searched list alive failing found left reached
  obtain ⟨-, kept⟩ := Client.run_leads (Client.fresh_kept rfl) acts permitted
  have finds : DeviceList.Finds list.library (position bus ports) list.entries searched
      (list.findByPath (position bus ports) searched).1
      (list.findByPath (position bus ports) searched).2 :=
    DeviceList.findAmong_finds (fun _ entry => kept.listed alive entry) failing
  rw [reached] at finds
  obtain ⟨foundBus, foundPorts, foundStands, same⟩ := finds.standsAt
  refine ⟨foundBus, foundPorts, foundStands, fun nonzero foundNonzero => ?_⟩
  exact position_inj foundNonzero nonzero same.symm

/-- Two devices whose digits are the same, and two that share a path. -/
def placesRun : List Act :=
  [.step (.control (.attach { ports := [12] })), .step (.control (.attach { ports := [1, 2] })),
    .step (.control (.attach { ports := [] })), .step (.control (.attach { ports := [0] }))]

theorem path_identifies_places :
    let world := (Client.fresh.run placesRun).session.world
    let device (raw : Address) : Device := { library := {}, owner := ⟨some raw⟩ }
    (∃ path other after otherAfter, (device 4096).path world = .ok path after ∧
      (device 4112).path world = .ok other otherAfter ∧ path ≠ other) ∧
    ∃ path after otherAfter, (device 4128).path world = .ok path after ∧
      (device 4144).path world = .ok path otherAfter := by
  intro world device
  have stands {raw : Address} {attached : AttachedDevice}
      (found : world.bus.device? raw = some attached)
      (few : attached.info.ports.length ≤ maxPortNumbers) :
      (device raw).StandsAt world attached.info.bus attached.info.ports :=
    ⟨raw, attached, rfl, found, rfl, rfl, by decide, few⟩
  constructor
  · obtain ⟨path, other, after, otherAfter, read, otherRead, same, -⟩ :=
      path_identifies (@stands 4096 _ rfl (by decide)) (@stands 4112 _ rfl (by decide))
    exact ⟨path, other, after, otherAfter, read, otherRead, mt same.mp (by decide)⟩
  · obtain ⟨path, other, after, otherAfter, read, otherRead, same, -⟩ :=
      path_identifies (@stands 4128 _ rfl (by decide)) (@stands 4144 _ rfl (by decide))
    obtain rfl := same.mpr (by decide)
    exact ⟨path, after, otherAfter, read, otherRead⟩

end Device

end UsbHost
