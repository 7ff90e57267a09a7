import UsbHost.Proofs.Client
import UsbHost.Proofs.NativeRuns
import UsbHost.Proofs.WatchedRuns
import UsbHost.Proofs.WatchedSteps

/-!
# Sessions without faults

Whatever a client does, the bus of its session has a past: the native calls that its steps made, and
what was done to the bus from outside. Watched, that past meets no fault, nor does anything that may
come next. The accesses that steps make themselves stay within bounds, but for the index operator.
-/

set_option autoImplicit false

namespace UsbHost

variable {session : Session} {bus after : Bus} {reach : Bus.Reach}

/-! ## What happens to the bus -/

theorem Bus.Called.calls (called : bus.Called reach after) :
    ∃ calls : List NativeCall, after = bus.run (calls.map .call) := by
  induction called with
  | refl => exact ⟨[], rfl⟩
  | tail _ next ih =>
    obtain ⟨calls, rfl⟩ := ih
    obtain ⟨call, -, rfl⟩ := next
    refine ⟨calls ++ [call], ?_⟩
    rw [List.map_append, Bus.run_append]
    rfl

theorem Bus.attachMany_run (info : DeviceInfo) (count : Nat) (bus : Bus) :
    (bus.attachMany info count).2 = bus.run (List.replicate count (.attach info)) := by
  induction count generalizing bus with
  | zero => rfl
  | succ count ih =>
    cases count with
    | zero => rfl
    | succ count => exact ih (bus.attach info).2

theorem ControlStep.makes (step : ControlStep) (session : Session) :
    ∃ made, (step.perform session).2.world.bus = session.world.bus.run made := by
  cases step with
  | attach info => exact ⟨[.attach info], rfl⟩
  | attachMany count info =>
    exact ⟨List.replicate count.toNat (.attach info), Bus.attachMany_run info _ _⟩
  | fail name code =>
    unfold perform
    dsimp only
    split
    · next function _ => exact ⟨[.fail function code], rfl⟩
    · exact ⟨[], rfl⟩
  | failReleaseOf interface code => exact ⟨[.failReleaseOf interface code], rfl⟩
  | clearFailures => exact ⟨[.clearFailures], rfl⟩
  | references | claims | countCalls | callArguments | misuseCount | logCount | logMessages =>
    exact ⟨[], rfl⟩

/-- The step did to the bus what `made` does. From inside, that is native calls only. -/
structure Session.Makes (session : Session) (step : Step) (made : List BusStep) : Prop where
  bus : (session.step step).2.world.bus = session.world.bus.run made
  inside : step.isOutside = false → ∃ calls : List NativeCall, made = calls.map .call

theorem Session.step_makes (session : Session) (step : Step) : ∃ made, session.Makes step made := by
  cases inside : step.isOutside with
  | true =>
    cases step with
    | control step =>
      obtain ⟨made, same⟩ := step.makes session
      exact ⟨made, same, fun inside => nomatch inside⟩
    | _ => contradiction
  | false =>
    have called : session.Called .any (session.step step) :=
      session.step_called inside (fun _ => trivial) fun _ _ => trivial
    obtain ⟨calls, same⟩ := called.calls
    exact ⟨calls.map .call, same, fun _ => ⟨calls, rfl⟩⟩

theorem Session.teardown_called (session : Session) :
    session.world.bus.Called .any session.teardown.world.bus := by
  unfold teardown
  dsimp only
  generalize session.world = world
  induction session.resources.teardownOrder generalizing world with
  | nil => exact .refl
  | cons resource rest ih => exact (resource.drop_called (fun _ _ => trivial) world).trans (ih _)

theorem Client.act_makes (client : Client) (act : Act) :
    ∃ made, (client.act act).session.world.bus = client.session.world.bus.run made := by
  cases act with
  | step step =>
    obtain ⟨made, makes⟩ := client.session.step_makes step
    exact ⟨made, makes.bus⟩
  | giveBack title => exact ⟨[.call title.returnCall], rfl⟩
  | returnReference device => exact ⟨[.call (.unrefDevice device)], rfl⟩
  | choose library => exact ⟨[], rfl⟩

theorem Client.run_makes (client : Client) (acts : List Act) :
    ∃ made, (client.run acts).session.world.bus = client.session.world.bus.run made := by
  induction acts generalizing client with
  | nil => exact ⟨[], rfl⟩
  | cons act rest ih =>
    obtain ⟨first, same⟩ := client.act_makes act
    obtain ⟨later, last⟩ := ih (client.act act)
    refine ⟨first ++ later, ?_⟩
    rw [Bus.run_append, ← same]
    exact last

/-! ## Drops hand out no address -/

theorem Handle.releaseAll_nextAddress (library : Library) (raw : Address)
    (interfaces : List UInt8) (world : World) :
    (interfaces.foldl (releaseOne library raw) world).bus.nextAddress = world.bus.nextAddress := by
  induction interfaces generalizing world with
  | nil => rfl
  | cons interface rest ih =>
    have first : (releaseOne library raw world interface).bus.nextAddress = world.bus.nextAddress :=
      Bus.after_nextAddress (.releaseInterface raw (nativeInterface interface)) rfl world.bus
    exact (ih _).trans first

theorem Handle.releaseClaimed_nextAddress (handle : Handle) (world : World) :
    (handle.releaseClaimed world).bus.nextAddress = world.bus.nextAddress := by
  unfold releaseClaimed
  split
  · exact releaseAll_nextAddress ..
  · rfl

theorem Handle.drop_nextAddress (handle : Handle) (world : World) :
    (handle.drop world).bus.nextAddress = world.bus.nextAddress := by
  have released := handle.releaseClaimed_nextAddress world
  -- The closed handle owns nothing, so that dropping it makes no further call.
  show (handle.owner.dispose disposal (handle.releaseClaimed world)).bus.nextAddress = _
  unfold Owner.dispose
  split
  · next raw _ => exact (Bus.after_nextAddress (.closeHandle raw) rfl _).trans released
  · exact released

/-- Whatever is freed or given back when a resource ends, no address is handed out. -/
theorem Resource.drop_nextAddress (resource : Resource) (world : World) :
    (resource.drop world).bus.nextAddress = world.bus.nextAddress := by
  cases resource with
  | context value =>
    show (value.owner.dispose _ world).bus.nextAddress = _
    unfold Owner.dispose
    split
    · next raw _ => exact Bus.after_nextAddress (.exitLibrary raw) rfl world.bus
    · rfl
  | list value =>
    show (value.drop world).bus.nextAddress = _
    unfold DeviceList.drop
    split
    · next array _ =>
      exact Bus.after_nextAddress (.freeDeviceList (.block array.block) 1) rfl world.bus
    · rfl
  | device value =>
    show (value.owner.dispose _ world).bus.nextAddress = _
    unfold Owner.dispose
    split
    · next raw _ => exact Bus.after_nextAddress (.unrefDevice raw) rfl world.bus
    · rfl
  | handle value => exact value.drop_nextAddress world
  | descriptor value =>
    show (value.owner.dispose _ world).bus.nextAddress = _
    unfold Owner.dispose
    split
    · next pointer _ =>
      exact Bus.after_nextAddress (.freeConfigDescriptor pointer.ref) rfl world.bus
    · rfl

theorem Session.teardown_nextAddress (session : Session) :
    session.teardown.world.bus.nextAddress = session.world.bus.nextAddress := by
  unfold teardown
  dsimp only
  generalize session.world = world
  induction session.resources.teardownOrder generalizing world with
  | nil => rfl
  | cons resource rest ih => exact (ih _).trans (resource.drop_nextAddress world)

/-! ## Sessions -/

/-- Watched, neither the past of a session nor anything that a client or the bus does next meets a
fault, except that the index operator is used out of bounds. -/
structure Session.Faultless (session : Session) (past : List BusStep) : Prop where
  arises : Bus.run {} past = session.world.bus
  reached : Machine.RunEnd {} past
  next : ∀ next, Machine.RunEnd {} (past ++ [next])
  steps : ∀ step, (session.step step).2.world.bus.allocated < 2 ^ 59 →
    ∃ made, session.Makes step made ∧ Machine.RunEnd {} (past ++ made)
  drops : ∀ resource : Resource, ∃ calls : List NativeCall,
    (resource.drop session.world).bus = session.world.bus.run (calls.map .call) ∧
      Machine.RunEnd {} (past ++ calls.map .call)
  teardown : ∃ calls : List NativeCall,
    session.teardown.world.bus = session.world.bus.run (calls.map .call) ∧
      Machine.RunEnd {} (past ++ calls.map .call)
  within : ∀ step, (∀ length index, ¬ session.IndexesBeyond step length index) →
    Watched.step session step = .ok (session.step step)
  beyond : ∀ step length index, session.IndexesBeyond step length index →
    Watched.step session step = .error .outOfBounds
  stops : ∀ step length index,
    (session.step step).1.result = .error (.indexOutOfBounds length index) ↔
      session.IndexesBeyond step length index

/-- The bus may go on as it does after its past. -/
theorem Machine.runEnd_append {past made : List BusStep} (arises : Bus.run {} past = bus)
    (leads : after = bus.run made) (few : after.allocated < 2 ^ 59) :
    Machine.RunEnd {} (past ++ made) := by
  have whole : Bus.run {} (past ++ made) = after := by
    rw [Bus.run_append, arises, leads]
  refine sound_nothing.run (past ++ made) ?_
  show (Bus.run {} (past ++ made)).allocated < 2 ^ 59
  rw [whole]
  exact few

theorem Session.faultless {past : List BusStep} (whole : session.Whole)
    (arises : Bus.run {} past = session.world.bus) (few : session.world.bus.allocated < 2 ^ 59) :
    session.Faultless past where
  arises := arises
  reached := Machine.sound_nothing.run past (arises ▸ few)
  next := (Machine.sound_nothing.run past (arises ▸ few)).snoc (arises ▸ few)
  steps step later := by
    obtain ⟨made, makes⟩ := session.step_makes step
    exact ⟨made, makes, Machine.runEnd_append arises makes.bus later⟩
  drops resource := by
    have called : session.world.bus.Called .any (resource.drop session.world).bus :=
      resource.drop_called (fun _ _ => trivial) session.world
    have idle := resource.drop_nextAddress session.world
    obtain ⟨calls, same⟩ := called.calls
    refine ⟨calls, same, Machine.runEnd_append arises same ?_⟩
    exact Nat.lt_of_le_of_lt (Bus.allocated_mono (Nat.le_of_eq idle)) few
  teardown := by
    have idle := session.teardown_nextAddress
    obtain ⟨calls, same⟩ := session.teardown_called.calls
    refine ⟨calls, same, Machine.runEnd_append arises same ?_⟩
    exact Nat.lt_of_le_of_lt (Bus.allocated_mono (Nat.le_of_eq idle)) few
  within step inside := Watched.step_eq whole step inside
  beyond step length index beyond := Watched.step_faulty whole beyond
  stops := session.step_stops_iff

namespace Client

/-- No run of a client that hands out fewer than 2^59 addresses meets a fault. -/
theorem run_faultless (acts : List Act)
    (few : (fresh.run acts).session.world.bus.allocated < 2 ^ 59) :
    ∃ past, (fresh.run acts).session.Faultless past := by
  obtain ⟨past, same⟩ := fresh.run_makes acts
  exact ⟨past, Session.faultless (run_whole acts) same.symm few⟩

/-- One device with two ports, and a count of ports that is the largest there is. -/
def extremeRun : List Act :=
  [.step (.control (.attach { ports := [1, 2] })), .step (.context (.start "context" .defaults)),
    .step (.list (.enumerate "list" "context")), .step (.list (.device "list" 0 "device")),
    .step (.control (.fail "libusb_get_port_numbers" 2147483647))]

theorem run_faultless_extreme :
    let session := (fresh.run extremeRun).session
    session.world.bus.allocated < 2 ^ 59 ∧ (∃ past, session.Faultless past) ∧
      (session.step (.device (.ports "device"))).1.result = .ok (.bytes (List.replicate 7 0)) ∧
      (session.step (.list (.index "list" 1))).1.result = .error (.indexOutOfBounds 1 1) := by
  intro session
  have few : session.world.bus.allocated < 2 ^ 59 := by decide
  exact ⟨few, run_faultless extremeRun few, rfl, rfl⟩

end Client

end UsbHost
