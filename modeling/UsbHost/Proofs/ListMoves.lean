import UsbHost.Proofs.StepMoves

/-!
# Moves of steps on device lists

A step that goes through a list makes one round of moves for each entry.
-/

set_option autoImplicit false

namespace UsbHost

open Custody (Move Leads)
open Session (Kept Goes)

variable {terms : Terms} {session : Session} {ledger : Ledger}

theorem World.Makes.knows {library : Library} {resource : Resource} {before after : World}
    {device : Address} (makes : before.Makes library resource after)
    (known : before.bus.Knows device) : after.bus.Knows device :=
  makes.acquires.knows known

/-- Looking for a device keeps the one that is found, and passes over the others without a
trace. -/
theorem DeviceList.findAmong_leads {library : Library} {owners : List Resource}
    (allowed : terms.library library) (path : String) (raws : List Address) {world : World}
    (sound : Custody.Sound terms ⟨world, owners, ledger⟩)
    (known : ∀ raw ∈ raws, world.bus.Knows raw) :
    Leads terms ⟨world, owners, ledger⟩
      ⟨(findAmong library path raws world).2,
        ((findAmong library path raws world).1.map Resource.device).toList ++ owners, ledger⟩ := by
  induction raws generalizing world with
  | nil => exact .refl
  | cons raw rest ih =>
    have makes := Device.ofRaw_makes library raw world fun _ => known raw List.mem_cons_self
    have taken : Leads terms ⟨world, owners, ledger⟩
        ⟨_, .device (Device.ofRaw library raw world).1 :: owners, ledger⟩ :=
      .single (.acquire makes allowed)
    unfold findAmong
    dsimp only
    generalize Device.ofRaw library raw world = made at makes taken
    have attached : made.1.Attached made.2.bus := by
      intro held owned
      have out : .reference held ∈
          (Custody.mk made.2 (.device made.1 :: owners) ledger).titles :=
        Custody.mem_titles List.mem_cons_self (by simp [Resource.title?, owned])
      exact (taken.sound sound).backs.reference_known out
    have ends := Device.path_ends attached
    have passedOver {later : World} (quiet : made.2.bus.Quiet later.bus) :
        Leads terms ⟨world, owners, ledger⟩
          ⟨(findAmong library path rest (made.1.drop later)).2,
            ((findAmong library path rest (made.1.drop later)).1.map Resource.device).toList ++
              owners, ledger⟩ := by
      have dropped : Leads terms ⟨world, owners, ledger⟩ ⟨made.1.drop later, owners, ledger⟩ :=
        (taken.tail (.observe quiet)).tail .drop
      refine dropped.trans (ih (dropped.sound sound) fun other member => ?_)
      have knownLater := quiet.knows_iff.mpr (makes.knows (known other (.tail _ member)))
      exact (Resource.drop_persists (.device made.1) (by simp)).knows knownLater
    cases reached : made.1.path made.2 with
    | ok candidate later =>
      have quiet := ends.of_ok reached
      dsimp only
      split
      · exact taken.tail (.observe quiet)
      · exact passedOver quiet
    | error error later => exact passedOver (ends.of_error reached).quiet

theorem DeviceList.devicesOf_leads {library : Library} (allowed : terms.library library)
    (raws : List Address) {world : World} {owners : List Resource}
    (known : ∀ raw ∈ raws, world.bus.Knows raw) :
    Leads terms ⟨world, owners, ledger⟩
      ⟨(devicesOf library raws world).2,
        (devicesOf library raws world).1.map Resource.device ++ owners, ledger⟩ := by
  induction raws generalizing world owners with
  | nil => exact .refl
  | cons raw rest ih =>
    have makes := Device.ofRaw_makes library raw world fun _ => known raw List.mem_cons_self
    have taken : Leads terms ⟨world, owners, ledger⟩
        ⟨_, .device (Device.ofRaw library raw world).1 :: owners, ledger⟩ :=
      .single (.acquire makes allowed)
    refine (taken.trans (ih fun other member => ?_)).tail (.shuffle List.perm_middle)
    exact makes.knows (known other (.tail _ member))

theorem ListStep.storeNumbered_leads (ledger : Ledger) (stem : String)
    (entries : List (Device × Nat)) (session : Session) (named : session.resources.Named) :
    let last := entries.foldl (fun session entry =>
      session.store (stem ++ toString entry.2) (.device entry.1)) session
    Leads terms ⟨session.world, entries.map (fun entry => .device entry.1) ++ session.owners,
        ledger⟩ (last.custody ledger) ∧
      last.resources.Named ∧ last.library = session.library := by
  induction entries generalizing session with
  | nil => exact ⟨.refl, named, rfl⟩
  | cons entry rest ih =>
    have stored : Leads terms _ _ := session.store_leads ledger named
      (stem ++ toString entry.2) (.device entry.1) (rest.map fun entry => .device entry.1)
    have renamed :
        (session.store (stem ++ toString entry.2) (.device entry.1)).resources.Named := by
      rw [Session.store_resources]
      exact named.put
    obtain ⟨leads, lastNamed, library⟩ := ih _ renamed
    refine ⟨?_, lastNamed, library.trans (Session.store_library ..)⟩
    refine .head (.shuffle ?_) (stored.trans (.head (.shuffle List.perm_append_comm) leads))
    exact List.perm_append_comm.cons _

theorem ListStep.storeNumbered_goes {world : World} {stem : String} {devices : List Device}
    (kept : Kept terms session ledger)
    (arrive : Leads terms (session.custody ledger)
      ⟨world, devices.map Resource.device ++ session.owners, ledger⟩) :
    Goes terms session ledger (storeNumbered stem { session with world } devices) ledger := by
  have stored := @storeNumbered_leads terms ledger stem devices.zipIdx { session with world }
    kept.named
  have entries : devices.zipIdx.map (fun entry => Resource.device entry.1) =
      devices.map Resource.device := by
    rw [← congrArg (List.map Resource.device) (List.zipIdx_map_fst 0 devices), List.map_map]
    rfl
  rw [entries] at stored
  obtain ⟨leads, named, library⟩ := stored
  exact ⟨arrive.trans leads, named, library⟩

theorem ListStep.goes (kept : Kept terms session ledger) (step : ListStep) :
    Goes terms session ledger (step.perform session).2 ledger := by
  cases step with
  | enumerate target context =>
    refine Session.withSlot_goes kept (fun _ => rfl) fun value found => ?_
    have allowed := kept.allowed (Resources.context?_eq_some found)
    exact Session.perform_storing kept allowed (DeviceList.enumerate_ends value _) target
  | look list => exact Session.withSlot_goes kept (fun _ => rfl) fun _ _ => kept.stays
  | get list index => exact Session.withSlot_goes kept (fun _ => rfl) fun _ _ => kept.stays
  | entryAt list index =>
    refine Session.withSlot_goes kept (fun _ => rfl) fun value _ => ?_
    split <;> exact kept.stays
  | index list index =>
    refine Session.withSlot_goes kept (fun _ => rfl) fun value _ => ?_
    split <;> exact kept.stays
  | device list index target =>
    refine Session.withSlot_goes kept (fun _ => rfl) fun value found => ?_
    have inside := Resources.list?_eq_some found
    unfold Session.run DeviceList.device?
    cases entry : value.get? index with
    | none => exact kept.stays
    | some raw =>
      have known := kept.entry_known inside (List.mem_of_getElem? entry)
      have makes := Device.ofRaw_makes value.library raw session.world fun _ => known
      exact Session.store_goes kept target _ (.single (.acquire makes (kept.allowed inside)))
  | devices list stem backwards =>
    refine Session.withSlot_goes kept (fun _ => rfl) fun value found => ?_
    have inside := Resources.list?_eq_some found
    have known : ∀ raw ∈ if backwards then value.entries.reverse else value.entries,
        session.world.bus.Knows raw := by
      intro raw entry
      refine kept.entry_known inside ?_
      split at entry
      · exact List.mem_reverse.mp entry
      · exact entry
    have allowed : terms.library value.library := kept.allowed inside
    have made : Leads terms (session.custody ledger) _ :=
      DeviceList.devicesOf_leads allowed _ known
    unfold Session.run DeviceList.devices
    generalize DeviceList.devicesOf value.library _ session.world = result at made
    obtain ⟨devices, later⟩ := result
    exact storeNumbered_goes kept made
  | find list path target =>
    refine Session.withSlot_goes kept (fun _ => rfl) fun value found => ?_
    have inside := Resources.list?_eq_some found
    have allowed : terms.library value.library := kept.allowed inside
    have leads := DeviceList.findAmong_leads allowed path value.entries kept.sound
      fun raw entry => kept.entry_known inside entry
    unfold Session.run DeviceList.findByPath
    generalize DeviceList.findAmong value.library path value.entries session.world = sought at leads
    obtain ⟨device, later⟩ := sought
    cases device with
    | some device => exact Session.store_goes kept target _ leads
    | none => exact ⟨leads, kept.named, rfl⟩

end UsbHost
