import UsbHost.Proofs.Codes

/-!
# Sizes of device lists

The size of a list is what its enumeration answered. That is the number of the entries if the
enumeration succeeded. A failure that is passed over makes a list without entries, and its size is
the negative code read as a machine word.
-/

set_option autoImplicit false

namespace UsbHost

variable {world : World} {context : Context} {list : DeviceList} {code : Int}

namespace DeviceList

/-- The size tells how many entries there are, and access is granted accordingly. -/
structure Sized (list : DeviceList) : Prop where
  size : list.size = list.entries.length
  isEmpty : list.isEmpty ↔ list.entries = []
  inside : ∀ index < list.size, ∃ raw,
    list.get? index = some raw ∧ list.entryAt index = .ok raw
  outside : ∀ index, list.size ≤ index → list.entryAt index = .error { index, size := list.size }

theorem sized_iff : list.Sized ↔ list.size = list.entries.length := by
  constructor
  · exact Sized.size
  · intro size
    refine ⟨size, ?_, fun index inside => ?_, fun index outside => ?_⟩
    · rw [isEmpty, beq_iff_eq, size, List.length_eq_zero_iff]
    · rw [size] at inside
      have found : list.get? index = some list.entries[index] := List.getElem?_eq_getElem inside
      exact ⟨_, found, by rw [entryAt, found]⟩
    · rw [size] at outside
      have missing : list.get? index = none := List.getElem?_eq_none outside
      rw [entryAt, missing]

/-! ## How an enumeration ends -/

/-- The list that an answer of the bus makes. -/
def ofReply (library : Library) (reply : Reply DeviceArray) : DeviceList where
  library
  array := reply.out
  size := (reply.code % UInt64.size).toNat

theorem enumerate_concludes (context : Context) (world : World) :
    (enumerate context).Concludes world
      (context.library.governs "DeviceList::new" context.library.policies.call)
      world.bus.getDeviceList.1.code (ofReply context.library world.bus.getDeviceList.1)
      world.bus.getDeviceList.2 :=
  (Usb.invoke_concludes ..).bind fun _ => ⟨rfl, rfl⟩

end DeviceList

namespace Bus

variable {bus : Bus}

theorem getDeviceList_injected (injected : bus.injected .getDeviceList = some code) :
    bus.getDeviceList.1 = { code } := by
  unfold getDeviceList checked
  rw [injected]
  rfl

theorem getDeviceList_answered (injected : bus.injected .getDeviceList = none) :
    bus.getDeviceList.1 = { code := bus.devices.length, out := some bus.enumeration } := by
  unfold getDeviceList checked
  rw [injected]
  simp [answering, enumeration]

end Bus

namespace DeviceList

variable {library : Library}

theorem ofReply_array {array : DeviceArray} (fits : array.entries.length < UInt64.size) :
    (ofReply library { code := array.entries.length, out := some array }).entries =
        array.entries ∧
      (ofReply library { code := array.entries.length, out := some array }).Sized := by
  have size : (ofReply library { code := array.entries.length, out := some array }).size =
      array.entries.length := by
    unfold UInt64.size at fits
    simp only [ofReply, UInt64.size]
    omega
  have entries : (ofReply library { code := array.entries.length, out := some array }).entries =
      array.entries := by
    change array.entries.take (DeviceList.size _) = array.entries
    rw [size, List.take_length]
  refine ⟨entries, sized_iff.mpr ?_⟩
  rw [size, entries]

theorem ofReply_failed (allowed : Terms.failing.code code) :
    (ofReply library { code }).entries = [] ∧
      ((ofReply library { code }).size : Int) = UInt64.size + code ∧
      ¬ (ofReply library { code }).Sized := by
  obtain ⟨least, negative⟩ := Terms.failing_code allowed
  have size : ((ofReply library { code }).size : Int) = UInt64.size + code := by
    simp only [ofReply, UInt64.size]
    omega
  refine ⟨rfl, size, fun sized => ?_⟩
  have none : (ofReply library { code }).size = 0 := sized.size
  unfold UInt64.size at size
  omega

end DeviceList

/-! ## Enumerations -/

namespace DeviceList

/-- Without an injected code the whole array of the bus is taken over. -/
theorem enumerate_array (context : Context) (injected : world.bus.injected .getDeviceList = none)
    (fits : world.bus.devices.length < UInt64.size) :
    ∃ list after, enumerate context world = .ok list after ∧ list.Sized ∧
      list.array = some world.bus.enumeration ∧ list.entries = world.bus.enumeration.entries := by
  have concludes := enumerate_concludes context world
  have length : world.bus.enumeration.entries.length = world.bus.devices.length :=
    List.length_map ..
  rw [Bus.getDeviceList_answered injected, ← length] at concludes
  rw [← length] at fits
  obtain ⟨entries, sized⟩ := ofReply_array fits
  obtain ⟨after, reached, -⟩ := concludes.answers fun fails =>
    Int.not_lt.mpr (Int.natCast_nonneg _) fails.1
  exact ⟨_, after, reached, sized, rfl, entries⟩

theorem enumerate_answered (context : Context)
    (injected : world.bus.injected .getDeviceList = none)
    (fits : world.bus.devices.length < UInt64.size) :
    ∃ list after, enumerate context world = .ok list after ∧ list.Sized ∧
      list.entries = world.bus.devices.map AttachedDevice.id := by
  obtain ⟨list, after, reached, sized, -, entries⟩ := enumerate_array context injected fits
  exact ⟨list, after, reached, sized, entries⟩

theorem enumerate_raised (injected : world.bus.injected .getDeviceList = some code)
    (negative : code < 0) (raises : context.library.policies.call.raise) :
    ∃ after, enumerate context world = .error
      ((context.library.governs "DeviceList::new" context.library.policies.call).failure code)
      after := by
  have concludes := enumerate_concludes context world
  rw [Bus.getDeviceList_injected injected] at concludes
  exact concludes.refuses negative raises

theorem enumerate_passedOver (injected : world.bus.injected .getDeviceList = some code)
    (allowed : Terms.failing.code code) (silent : ¬ context.library.policies.call.raise) :
    ∃ list after, enumerate context world = .ok list after ∧ list.entries = [] ∧
      (list.size : Int) = UInt64.size + code ∧ ¬ list.Sized := by
  have concludes := enumerate_concludes context world
  rw [Bus.getDeviceList_injected injected] at concludes
  obtain ⟨after, reached, -⟩ := concludes.answers fun fails => silent fails.2
  exact ⟨_, after, reached, ofReply_failed allowed⟩

end DeviceList

/-- How an enumeration for a context ends. -/
structure Context.Enumerates (context : Context) (world : World) : Prop where
  answered : world.bus.injected .getDeviceList = none → ∃ list after,
    DeviceList.enumerate context world = .ok list after ∧ list.Sized ∧
      list.entries = world.bus.devices.map AttachedDevice.id
  raised : ∀ code, world.bus.injected .getDeviceList = some code →
    context.library.policies.call.raise → ∃ after, DeviceList.enumerate context world = .error
      ((context.library.governs "DeviceList::new" context.library.policies.call).failure code)
      after
  passedOver : ∀ code, world.bus.injected .getDeviceList = some code →
    ¬ context.library.policies.call.raise → ∃ list after,
      DeviceList.enumerate context world = .ok list after ∧ list.entries = [] ∧
        (list.size : Int) = UInt64.size + code ∧ ¬ list.Sized

theorem Context.enumerates (context : Context) (arranged : world.bus.Arranged .failing)
    (fits : world.bus.devices.length < UInt64.size) : context.Enumerates world where
  answered injected := DeviceList.enumerate_answered context injected fits
  raised _ injected :=
    DeviceList.enumerate_raised injected (Terms.failing_code (arranged.injected injected)).2
  passedOver _ injected := DeviceList.enumerate_passedOver injected (arranged.injected injected)

/-- A list that an enumeration makes has the right size unless it was made of a failure. -/
theorem Context.Enumerates.sized_iff {after : World} (enumerates : context.Enumerates world)
    (reached : DeviceList.enumerate context world = .ok list after) :
    list.Sized ↔
      context.library.policies.call.raise ∨ world.bus.injected .getDeviceList = none := by
  cases injected : world.bus.injected .getDeviceList with
  | none =>
    obtain ⟨made, later, same, sized, -⟩ := enumerates.answered injected
    obtain ⟨rfl, -⟩ := EStateM.Result.ok.inj (same.symm.trans reached)
    exact iff_of_true sized (.inr rfl)
  | some code =>
    by_cases raises : context.library.policies.call.raise
    · obtain ⟨later, same⟩ := enumerates.raised code injected raises
      exact absurd (same.symm.trans reached) nofun
    · obtain ⟨made, later, same, -, -, notSized⟩ := enumerates.passedOver code injected raises
      obtain ⟨rfl, -⟩ := EStateM.Result.ok.inj (same.symm.trans reached)
      refine iff_of_false notSized ?_
      rintro (raises' | none)
      · exact raises raises'
      · contradiction

namespace Client

/-- In every reachable state an enumeration ends as it should where failures are raised. The size
of a list is wrong exactly if the list was made of a failure that was passed over. -/
theorem run_enumerates (acts : List Act) (permitted : fresh.Permitted .failing acts)
    (fits : (fresh.run acts).session.world.bus.devices.length < UInt64.size) (context : Context) :
    let world := (fresh.run acts).session.world
    context.Enumerates world ∧ ∀ list after, DeviceList.enumerate context world = .ok list after →
      (list.Sized ↔
        context.library.policies.call.raise ∨ world.bus.injected .getDeviceList = none) := by
  intro world
  have enumerates := context.enumerates (run_arranged rfl acts permitted) fits
  exact ⟨enumerates, fun list after reached => enumerates.sized_iff reached⟩

/-- One device, and an enumeration that fails. -/
def failedListRun (raise : Bool) : List Act :=
  [.choose { policies := { call := { level := .warn, raise } } }, .step (.control (.attach {})),
    .step (.context (.start "context" .session)),
    .step (.control (.fail "libusb_get_device_list" (-1)))]

theorem run_enumerates_failing :
    let world := (fresh.run (failedListRun true)).session.world
    let context : Context :=
      { library := { policies := { call := { level := .warn, raise := true } } }
        owner := ⟨some 4112⟩ }
    fresh.Permitted .failing (failedListRun true) ∧ world.bus.devices.length < UInt64.size ∧
      world.bus.injected .getDeviceList = some (-1) ∧ context.Enumerates world := by
  intro world context
  have permitted : fresh.Permitted .failing (failedListRun true) := by decide
  have fits : world.bus.devices.length < UInt64.size := by decide
  exact ⟨permitted, fits, by decide, (run_enumerates _ permitted fits context).1⟩

/-- A list made of a failure has the largest size there is, is not empty, and has no entry. -/
theorem run_list_oversized :
    let session := (fresh.run (failedListRun false)).session
    let after := (session.step (.list (.enumerate "list" "context"))).2
    fresh.Permitted .failing (failedListRun false) ∧
      (after.resources.list? "list").map DeviceList.size = some 18446744073709551615 ∧
      (after.resources.list? "list").map DeviceList.isEmpty = some false ∧
      (after.resources.list? "list").map DeviceList.entries = some [] := by
  decide

end Client

end UsbHost
