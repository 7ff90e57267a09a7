import UsbHost.Proofs.Codes
import UsbHost.Proofs.NativeAccounts

/-!
# Positions of devices

What a device value reads of its position are the ports and the bus number that the bus has, unless
the ports cannot be read. A failure to read them that is passed over reads as seven ports zero, and
so as a position that no device need have.
-/

set_option autoImplicit false

namespace UsbHost

variable {bus : Bus} {world after : World} {device : Device} {raw : Address}
  {attached : AttachedDevice} {code : Int}

/-! ## The text of a position -/

/-- The bus number, and each port after a dot; no ports are written as one port zero. -/
def Device.position (bus : UInt8) (ports : List UInt8) : String :=
  toString bus.toNat ++
    if ports = [] then ".0" else String.join (ports.map fun port => "." ++ toString port.toNat)

theorem Device.foldl_ports (text : String) (ports : List UInt8) :
    ports.foldl (fun path port => path ++ "." ++ toString port.toNat) text =
      text ++ String.join (ports.map fun port => "." ++ toString port.toNat) := by
  induction ports generalizing text with
  | nil => simp
  | cons port rest ih =>
    rw [List.foldl_cons, ih, List.map_cons, String.join_cons]
    simp only [String.append_assoc]

theorem Device.pathText_eq (bus : UInt8) (ports : List UInt8) :
    pathText bus ports = position bus ports := by
  unfold pathText position
  cases ports with
  | nil =>
    have zero : "." ++ toString (0 : UInt8).toNat = ".0" := by decide
    rw [if_pos rfl, ← zero, ← String.append_assoc]
    rfl
  | cons port rest => exact foldl_ports ..

/-! ## Reading ports -/

namespace Bus

/-- The code with which reading the ports of a device fails, if it does. -/
def portFailure? (bus : Bus) (attached : AttachedDevice) : Option Int :=
  (bus.injected .getPortNumbers).or
    (if maxPortNumbers < attached.info.ports.length then some ErrorKind.overflow.code else none)

theorem portFailure?_eq_none : bus.portFailure? attached = none ↔
    bus.injected .getPortNumbers = none ∧ attached.info.ports.length ≤ maxPortNumbers := by
  simp [portFailure?]

theorem Arranged.portFailure? (arranged : bus.Arranged .failing)
    (fails : bus.portFailure? attached = some code) : Terms.failing.code code := by
  rcases Option.or_eq_some_iff.mp fails with injected | ⟨-, overflow⟩
  · exact arranged.injected injected
  · split at overflow
    · obtain rfl := Option.some.inj overflow
      decide
    · contradiction

theorem getPortNumbers_reply (found : bus.device? raw = some attached) :
    (bus.getPortNumbers raw maxPortNumbers).1 =
      match bus.portFailure? attached with
      | some code => { code }
      | none => { code := attached.info.ports.length, out := some attached.info.ports } := by
  unfold getPortNumbers checked portFailure?
  rw [withDevice_found found]
  cases bus.injected .getPortNumbers with
  | some code => rfl
  | none =>
    dsimp only [Int.toNat_natCast]
    by_cases small : maxPortNumbers < attached.info.ports.length
    · simp only [if_pos small]
      rfl
    · simp only [if_neg small]
      rfl

end Bus

namespace Device

/-- What the buffer holds of the ports after a call that wrote them, up to the reported number. -/
def portsOf (reply : Reply (List UInt8)) : List UInt8 :=
  (writtenBuffer maxPortNumbers reply.out).take (reportedPorts reply.code)

theorem portsOf_written {ports : List UInt8} (few : ports.length ≤ maxPortNumbers) :
    portsOf { code := ports.length, out := some ports } = ports := by
  have reported : reportedPorts ports.length = ports.length := by
    unfold maxPortNumbers at few
    simp only [reportedPorts, maxPortNumbers, UInt64.size]
    omega
  rw [portsOf, reported, writtenBuffer, Option.getD_some, List.take_take, Nat.min_eq_left few,
    List.take_left]

/-- A negative code reads as a number of ports too large for the buffer, and the buffer is zero. -/
theorem portsOf_failed (allowed : Terms.failing.code code) :
    portsOf { code } = List.replicate maxPortNumbers 0 := by
  -- As a machine word a negative code is at least `2 ^ 63`.
  obtain ⟨least, negative⟩ := Terms.failing_code allowed
  have reported : reportedPorts code = maxPortNumbers := by
    simp only [reportedPorts, maxPortNumbers, UInt64.size]
    omega
  rw [portsOf, reported]
  rfl

/-- Who answers for the reading of ports. -/
abbrev portGovernance (device : Device) : Governance :=
  device.library.governs "UsbDevice::port_numbers" device.library.policies.call

theorem portNumbers_concludes (owned : device.owner.raw = some raw) (world : World) :
    device.portNumbers.Concludes world device.portGovernance
      (world.bus.getPortNumbers raw maxPortNumbers).1.code
      (portsOf (world.bus.getPortNumbers raw maxPortNumbers).1)
      (world.bus.getPortNumbers raw maxPortNumbers).2 := by
  unfold portNumbers
  rw [requireRaw_bind owned]
  exact (Usb.invoke_concludes ..).bind fun _ => ⟨rfl, rfl⟩

/-- Reading ports leaves every device as it was. -/
theorem getPortNumbers_found (found : world.bus.device? raw = some attached)
    (asked : after.bus = (world.bus.getPortNumbers raw maxPortNumbers).2) :
    after.bus.device? raw = some attached := by
  have quiet := (Bus.getPortNumbers_answers (Bus.knows_of_device? found) maxPortNumbers).quiet
  rw [asked, Bus.device?, quiet.devices]
  exact found

theorem path_of_ports {ports : List UInt8} (owned : device.owner.raw = some raw)
    (reached : device.portNumbers world = .ok ports after)
    (found : after.bus.device? raw = some attached) :
    device.path world = .ok (position attached.info.bus ports)
      { after with bus := after.bus.record .getBusNumber } := by
  have recorded : (after.bus.record .getBusNumber).device? raw = some attached := found
  have numbered : device.busNumber after =
      (attached.info.bus, { after with bus := after.bus.record .getBusNumber }) := by
    unfold busNumber
    rw [owned]
    simp only [World.ask, NativeApi.getBusNumber, Bus.getBusNumber, Bus.readByte, recorded]
  rw [← pathText_eq]
  simp only [path, bind, EStateM.bind, reached]
  change EStateM.Result.ok (pathText (device.busNumber after).1 ports)
    (device.busNumber after).2 = _
  rw [numbered]

theorem path_of_error {error : UsbError} (reached : device.portNumbers world = .error error after) :
    device.path world = .error error after := by
  simp only [path, bind, EStateM.bind, reached]

/-! ## Positions -/

/-- The ports can be read as `ports`, and the path accordingly. -/
def Reads (device : Device) (attached : AttachedDevice) (world : World) (ports : List UInt8) :
    Prop :=
  (∃ after, device.portNumbers world = .ok ports after) ∧
    ∃ after, device.path world = .ok (position attached.info.bus ports) after

/-- Neither ports nor path can be read. -/
def Refuses (device : Device) (world : World) (error : UsbError) : Prop :=
  (∃ after, device.portNumbers world = .error error after) ∧
    ∃ after, device.path world = .error error after

/-- What a device value reads of the position of the device that it names. -/
structure Locates (device : Device) (attached : AttachedDevice) (world : World) : Prop where
  readable : world.bus.portFailure? attached = none →
    device.Reads attached world attached.info.ports
  raised : ∀ code, world.bus.portFailure? attached = some code →
    device.library.policies.call.raise →
      device.Refuses world (device.portGovernance.failure code)
  passedOver : ∀ code, world.bus.portFailure? attached = some code →
    ¬ device.library.policies.call.raise →
      device.Reads attached world (List.replicate maxPortNumbers 0)

/-- Ports that are not refused are read, and so is the path. -/
theorem reads_of_passes (owned : device.owner.raw = some raw)
    (found : world.bus.device? raw = some attached)
    (passes : ¬ ((world.bus.getPortNumbers raw maxPortNumbers).1.code < 0 ∧
      device.library.policies.call.raise)) :
    device.Reads attached world (portsOf (world.bus.getPortNumbers raw maxPortNumbers).1) := by
  obtain ⟨after, reached, asked⟩ := (portNumbers_concludes owned world).answers passes
  exact ⟨⟨after, reached⟩, _, path_of_ports owned reached (getPortNumbers_found found asked)⟩

theorem reads_readable (owned : device.owner.raw = some raw)
    (found : world.bus.device? raw = some attached)
    (readable : world.bus.portFailure? attached = none) :
    device.Reads attached world attached.info.ports := by
  have reply := Bus.getPortNumbers_reply found
  rw [readable] at reply
  have reads := reads_of_passes owned found fun fails => by
    rw [reply] at fails
    exact Int.not_lt.mpr (Int.natCast_nonneg _) fails.1
  rw [reply, portsOf_written (Bus.portFailure?_eq_none.mp readable).2] at reads
  exact reads

theorem refuses_raised (owned : device.owner.raw = some raw)
    (found : world.bus.device? raw = some attached)
    (fails : world.bus.portFailure? attached = some code) (negative : code < 0)
    (raises : device.library.policies.call.raise) :
    device.Refuses world (device.portGovernance.failure code) := by
  have concludes := portNumbers_concludes owned world
  rw [Bus.getPortNumbers_reply found, fails] at concludes
  obtain ⟨after, reached⟩ := concludes.refuses negative raises
  exact ⟨⟨after, reached⟩, after, path_of_error reached⟩

theorem reads_passedOver (owned : device.owner.raw = some raw)
    (found : world.bus.device? raw = some attached)
    (fails : world.bus.portFailure? attached = some code) (allowed : Terms.failing.code code)
    (silent : ¬ device.library.policies.call.raise) :
    device.Reads attached world (List.replicate maxPortNumbers 0) := by
  have reply := Bus.getPortNumbers_reply found
  rw [fails] at reply
  have reads := reads_of_passes owned found fun fails => silent fails.2
  rw [reply, portsOf_failed allowed] at reads
  exact reads

theorem locates (arranged : world.bus.Arranged .failing) (owned : device.owner.raw = some raw)
    (found : world.bus.device? raw = some attached) : device.Locates attached world where
  readable := reads_readable owned found
  raised _ fails := refuses_raised owned found fails
    (Terms.failing_code (arranged.portFailure? fails)).2
  passedOver _ fails := reads_passedOver owned found fails (arranged.portFailure? fails)

namespace Locates

/-- Where failures are raised, the ports that are read are those of the device. -/
theorem ports_eq (locates : device.Locates attached world)
    (raises : device.library.policies.call.raise) {ports : List UInt8}
    (reached : device.portNumbers world = .ok ports after) :
    ports = attached.info.ports ∧ ports.length ≤ maxPortNumbers := by
  cases fails : world.bus.portFailure? attached with
  | none =>
    obtain ⟨⟨later, same⟩, -⟩ := locates.readable fails
    obtain ⟨rfl, -⟩ := EStateM.Result.ok.inj (same.symm.trans reached)
    exact ⟨rfl, (Bus.portFailure?_eq_none.mp fails).2⟩
  | some code =>
    obtain ⟨⟨later, same⟩, -⟩ := locates.raised code fails raises
    exact absurd (same.symm.trans reached) nofun

theorem path_eq (locates : device.Locates attached world)
    (raises : device.library.policies.call.raise) {path : String}
    (reached : device.path world = .ok path after) :
    path = position attached.info.bus attached.info.ports ∧
      world.bus.portFailure? attached = none := by
  cases fails : world.bus.portFailure? attached with
  | none =>
    obtain ⟨-, later, same⟩ := locates.readable fails
    obtain ⟨rfl, -⟩ := EStateM.Result.ok.inj (same.symm.trans reached)
    exact ⟨rfl, rfl⟩
  | some code =>
    obtain ⟨-, later, same⟩ := locates.raised code fails raises
    exact absurd (same.symm.trans reached) nofun

end Locates

end Device

namespace Client

/-- In every reachable state a device value reads the position of the device that it names, or is
refused, unless a failure is passed over; then it reads seven ports zero. -/
theorem run_positions (acts : List Act) (permitted : fresh.Permitted .failing acts)
    (device : Device) (alive : .device device ∈ (fresh.run acts).session.owners) (raw : Address)
    (owned : device.owner.raw = some raw) :
    let world := (fresh.run acts).session.world
    ∃ attached, world.bus.device? raw = some attached ∧ device.Locates attached world ∧
      (device.library.policies.call.raise →
        (∀ ports after, device.portNumbers world = .ok ports after →
          ports = attached.info.ports ∧ ports.length ≤ maxPortNumbers) ∧
        ∀ path after, device.path world = .ok path after →
          path = Device.position attached.info.bus attached.info.ports ∧
            world.bus.portFailure? attached = none) := by
  intro world
  obtain ⟨-, kept⟩ := run_leads (fresh_kept rfl) acts permitted
  have title : .reference raw ∈ (fresh.run acts).custody.titles :=
    Custody.mem_titles alive (by simp [Resource.title?, owned])
  obtain ⟨attached, found⟩ := (kept.sound.backs.reference_known title).device?
  have locates := Device.locates (run_arranged rfl acts permitted) owned found
  refine ⟨attached, found, locates, fun raises => ⟨?_, ?_⟩⟩
  · exact fun ports after reached => locates.ports_eq raises reached
  · exact fun path after reached => locates.path_eq raises reached

/-- A device that is too deep for its ports to be read. -/
def deepRun (raise : Bool) : List Act :=
  [.choose { policies := { call := { level := .warn, raise } } },
    .step (.control (.attach { ports := [1, 2, 3, 4, 5, 6, 7, 8] })),
    .step (.device (.adopt "device" 4096 none))]

theorem run_positions_deep :
    let world := (fresh.run (deepRun true)).session.world
    let device : Device :=
      { library := { policies := { call := { level := .warn, raise := true } } }
        owner := ⟨some 4096⟩ }
    fresh.Permitted .failing (deepRun true) ∧
      .device device ∈ (fresh.run (deepRun true)).session.owners ∧
      ∃ attached, world.bus.device? 4096 = some attached ∧ device.Locates attached world := by
  intro world device
  have permitted : fresh.Permitted .failing (deepRun true) := by decide
  have alive : .device device ∈ (fresh.run (deepRun true)).session.owners :=
    @Resources.mem_of_find? _ .device "device" _ rfl
  obtain ⟨attached, found, locates, -⟩ := run_positions _ permitted device alive 4096 rfl
  exact ⟨permitted, alive, attached, found, locates⟩

/-- Where failures are passed over, the device reads as being in another place. -/
theorem run_position_invented :
    let world := (fresh.run (deepRun false)).session.world
    let device : Device :=
      { library := { policies := { call := { level := .warn, raise := false } } }
        owner := ⟨some 4096⟩ }
    fresh.Permitted .failing (deepRun false) ∧
      .device device ∈ (fresh.run (deepRun false)).session.owners ∧
      (world.bus.device? 4096).map (·.info.ports) = some [1, 2, 3, 4, 5, 6, 7, 8] ∧
      (∃ after, device.portNumbers world = .ok [0, 0, 0, 0, 0, 0, 0] after) ∧
      ∃ after, device.path world = .ok "1.0.0.0.0.0.0.0" after := by
  intro world device
  have alive : .device device ∈ (fresh.run (deepRun false)).session.owners :=
    @Resources.mem_of_find? _ .device "device" _ rfl
  have text : Device.pathText 1 [0, 0, 0, 0, 0, 0, 0] = "1.0.0.0.0.0.0.0" := by decide
  refine ⟨by decide, alive, by decide, ⟨_, rfl⟩, ?_⟩
  rw [← text]
  exact ⟨_, rfl⟩

end Client

end UsbHost
