import UsbHost.Proofs.Client
import UsbHost.Proofs.NativeRuns
import UsbHost.Proofs.OverRelease

/-!
# Which devices were attached

The devices on the bus are those that were plugged in, in the order in which they were. Nothing
else adds a device, and none is ever removed.
-/

set_option autoImplicit false

namespace UsbHost

/-! ## The history of a client -/

/-- The addresses that are handed out when a device is plugged in several times. -/
def Bus.attachedMany (info : DeviceInfo) : Nat → Bus → List Address
  | 0, _ => []
  | count + 1, bus => (bus.attach info).1 :: attachedMany info count (bus.attach info).2

/-- The devices that a step from outside plugs in. -/
def ControlStep.attaches (bus : Bus) : ControlStep → List Address
  | .attach info => [(bus.attach info).1]
  | .attachMany count info => bus.attachedMany info count.toNat
  | _ => []

namespace Client

/-- The devices that an act plugs in. -/
def attaches (client : Client) : Act → List Address
  | .step (.control step) => step.attaches client.session.world.bus
  | _ => []

/-- The devices that are plugged in while a client acts, oldest first. -/
def attached (client : Client) : List Act → List Address
  | [] => []
  | act :: rest => client.attaches act ++ (client.act act).attached rest

end Client

/-! ## The devices on the bus -/

namespace Bus

variable {bus after : Bus}

/-- These devices are on the bus, in this order, which is that of their addresses. -/
structure Populated (bus : Bus) (ids : List Address) : Prop where
  coherent : bus.Coherent
  table : bus.devices.map AttachedDevice.id = ids
  ordered : ids.Pairwise (· < ·)

namespace Populated

variable {ids : List Address}

theorem nodup (populated : bus.Populated ids) : ids.Nodup :=
  populated.table ▸ populated.coherent.devices.nodup

theorem called {reach : Reach} (populated : bus.Populated ids) (called : bus.Called reach after) :
    after.Populated ids := by
  induction called with
  | refl => exact populated
  | tail _ made populated =>
    obtain ⟨call, -, rfl⟩ := made
    have fair := perform_fair populated.coherent call
    exact ⟨fair.coherent, fair.ids.trans populated.table, populated.ordered⟩

theorem steady (populated : bus.Populated ids) (steady : bus.Steady after) :
    after.Populated ids :=
  ⟨steady.coherent populated.coherent, by rw [steady.devices, populated.table], populated.ordered⟩

theorem attach (populated : bus.Populated ids) (info : DeviceInfo) :
    (bus.attach info).2.Populated (ids ++ [(bus.attach info).1]) where
  coherent := populated.coherent.attach info
  table := by
    rw [attach_ids, populated.table]
    rfl
  ordered := by
    refine List.pairwise_append.mpr ⟨populated.ordered, List.pairwise_singleton .., ?_⟩
    intro older member newest single
    rw [List.mem_singleton.mp single]
    exact populated.coherent.devices.below older (populated.table ▸ member)

theorem attachMany (populated : bus.Populated ids) (info : DeviceInfo) (count : Nat) :
    (bus.attachMany info count).2.Populated (ids ++ bus.attachedMany info count) := by
  induction count generalizing bus ids with
  | zero =>
    rw [attachedMany, List.append_nil]
    exact populated
  | succ count ih =>
    have next := populated.attach info
    cases count with
    | zero => exact next
    | succ count =>
      have rest := ih next
      rw [List.append_assoc] at rest
      exact rest

end Populated

end Bus

/-! ## Runs -/

namespace Client

variable {client : Client} {ids : List Address}

/-- A step from outside plugs devices in, or leaves those on the bus alone. -/
theorem control_populated (populated : client.session.world.bus.Populated ids)
    (step : ControlStep) : (step.perform client.session).2.world.bus.Populated
      (ids ++ step.attaches client.session.world.bus) := by
  have same {after : Bus} (populated : after.Populated ids) : after.Populated (ids ++ []) := by
    rw [List.append_nil]
    exact populated
  cases step with
  | attach info => exact populated.attach info
  | attachMany count info => exact populated.attachMany info count.toNat
  | fail function code =>
    unfold ControlStep.perform
    dsimp only
    split
    · exact same (populated.steady ⟨rfl, rfl, rfl, rfl, rfl, rfl, rfl, rfl⟩)
    · exact same populated
  | failReleaseOf interface code | clearFailures =>
    exact same (populated.steady ⟨rfl, rfl, rfl, rfl, rfl, rfl, rfl, rfl⟩)
  | references device | claims handle | countCalls function | callArguments function
  | misuseCount | logCount level | logMessages level => exact same populated

theorem act_populated (populated : client.session.world.bus.Populated ids) (act : Act) :
    (client.act act).session.world.bus.Populated (ids ++ client.attaches act) := by
  -- Every act but a step from outside makes native calls only.
  have inside (none : client.attaches act = [])
      (called : client.session.world.bus.Called .any (client.act act).session.world.bus) :
      (client.act act).session.world.bus.Populated (ids ++ client.attaches act) := by
    rw [none, List.append_nil]
    exact populated.called called
  have steps {step : Step} (inside : step.isOutside = false) :
      client.session.Called .any (client.session.step step) :=
    client.session.step_called inside (fun _ => trivial) fun _ _ => trivial
  cases act with
  | step step =>
    cases step with
    | control step => exact control_populated populated step
    | context | list | device | handle | descriptor | native | drop | move | inspect =>
      exact inside rfl (steps rfl)
  | giveBack title => exact inside rfl (steps rfl)
  | returnReference device => exact inside rfl (steps rfl)
  | choose library => exact inside rfl .refl

/-- The devices on the bus are those that were there before and those plugged in since. -/
theorem run_populated (populated : client.session.world.bus.Populated ids) (acts : List Act) :
    (client.run acts).session.world.bus.Populated (ids ++ client.attached acts) := by
  induction acts generalizing client ids with
  | nil =>
    rw [attached, List.append_nil]
    exact populated
  | cons act rest ih =>
    have later := ih (act_populated populated act)
    rw [List.append_assoc] at later
    exact later

theorem fresh_populated : fresh.session.world.bus.Populated [] :=
  ⟨Bus.coherent_nothing, rfl, List.Pairwise.nil⟩

end Client

end UsbHost
