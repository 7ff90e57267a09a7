import UsbHost.Proofs.NativeAccounts
import UsbHost.Proofs.Ownership
import UsbHost.Proofs.Teardown

/-!
# Switching devices

A device value that is to name another device takes the reference to the new one before it gives
the old one back. So whatever somebody names has a reference at every moment, also between the two
calls, and also where old and new are one device to which no other reference is left.
-/

set_option autoImplicit false

namespace UsbHost

namespace Bus

variable {bus : Bus} {returned : List Address} {titles : List Title} {device : Address}

/-- No call was a misuse, and what titles and open handles keep has a reference. -/
structure Secure (bus : Bus) (titles : List Title) : Prop where
  misuse : bus.misuse = []
  titled : ∀ title ∈ titles, ∀ device, title.holds device → 0 < bus.references device
  seated : ∀ opened ∈ bus.handles, 0 < bus.references opened.device

theorem Backs.references_eq (backs : bus.Backs returned titles) (known : bus.Knows device) :
    bus.references device =
      ownShare returned device + titles.countP (Title.holds device) + bus.handlesOn device := by
  obtain ⟨attached, found⟩ := known.device?
  obtain ⟨inside, same⟩ := backs.orderly.device?_eq_some_iff.mp found
  have shares := backs.references attached inside
  rw [same] at shares
  have count : bus.references device = attached.references := by
    rw [Bus.references, found]
    rfl
  exact count.trans shares

theorem Backs.secure (backs : bus.Backs returned titles) : bus.Secure titles where
  misuse := backs.misuse
  titled := by
    intro title member device holds
    rw [backs.references_eq (backs.known title member device holds)]
    have counted : 0 < titles.countP (Title.holds device) :=
      List.countP_pos_iff.mpr ⟨title, member, holds⟩
    omega
  seated := by
    intro opened member
    rw [backs.references_eq (backs.bound opened member)]
    have counted : 0 < bus.handlesOn opened.device :=
      List.countP_pos_iff.mpr ⟨opened, member, beq_self_eq_true _⟩
    omega

/-! ## The two calls -/

theorem refDevice_references (known : bus.Knows device) (other : Address) :
    (bus.refDevice device).references other =
      bus.references other + if device = other then 1 else 0 := by
  obtain ⟨attached, found⟩ := known.device?
  have recorded : (bus.record .refDevice).device? device = some attached := found
  have same : (bus.record .refDevice).references other = bus.references other := rfl
  rw [refDevice, recorded]
  dsimp only
  rw [references_modify, same]
  by_cases own : device = other
  · subst own
    have still : (bus.record .refDevice).Knows device := known
    rw [if_pos ⟨rfl, still⟩, if_pos rfl]
  · rw [if_neg fun both => own both.1.symm, if_neg own]
    rfl

theorem Backs.unrefDevice_references (backs : bus.Backs returned (.reference device :: titles))
    (other : Address) :
    (bus.unrefDevice device).references other + (if device = other then 1 else 0) =
      bus.references other := by
  obtain ⟨one, others⟩ := (backs.journal _).giveBack_references .unrefDevice
  by_cases same : device = other
  · subst same
    rw [if_pos rfl]
    exact one
  · rw [if_neg same]
    exact others other (Ne.symm same)

theorem refDevice_journal (bus : Bus) (device : Address) :
    (bus.refDevice device).journal = bus.journal ++ [{ function := .refDevice }] := by
  unfold refDevice
  dsimp only
  split <;> rfl

theorem unrefDevice_journal (bus : Bus) (device : Address) :
    (bus.unrefDevice device).journal = bus.journal ++ [{ function := .unrefDevice }] :=
  giveBack_journal ..

/-! ## The calls for what may be null -/

/-- The call that takes a reference, unless there is nothing to refer to. -/
def taking (raw : Option Address) : List BusStep :=
  raw.toList.map fun raw => .call (.refDevice raw)

/-- The call that gives a reference back, unless there is none. -/
def givingBack (raw : Option Address) : List BusStep :=
  raw.toList.map fun raw => .call (.unrefDevice raw)

variable {raw : Option Address}

theorem Backs.run_taking (backs : bus.Backs returned titles)
    (known : ∀ device ∈ raw, bus.Knows device) :
    (bus.run (taking raw)).Backs returned (raw.toList.map .reference ++ titles) := by
  cases raw with
  | none => exact backs
  | some device => exact backs.acquire (refDevice_acquires (known device rfl))

theorem run_taking_references (known : ∀ device ∈ raw, bus.Knows device) (other : Address) :
    (bus.run (taking raw)).references other =
      bus.references other + if raw = some other then 1 else 0 := by
  cases raw with
  | none => rfl
  | some device =>
    simp only [Option.some.injEq]
    exact refDevice_references (known device rfl) other

theorem Backs.run_givingBack_references
    (backs : bus.Backs returned (raw.toList.map .reference ++ titles)) (other : Address) :
    (bus.run (givingBack raw)).references other + (if raw = some other then 1 else 0) =
      bus.references other := by
  cases raw with
  | none => rfl
  | some device =>
    simp only [Option.some.injEq]
    exact backs.unrefDevice_references other

theorem run_taking_journal (bus : Bus) (raw : Option Address) :
    (bus.run (taking raw)).journal =
      bus.journal ++ raw.toList.map fun _ => { function := .refDevice } := by
  cases raw with
  | none => exact (List.append_nil _).symm
  | some device => exact bus.refDevice_journal device

theorem run_givingBack_journal (bus : Bus) (raw : Option Address) :
    (bus.run (givingBack raw)).journal =
      bus.journal ++ raw.toList.map fun _ => { function := .unrefDevice } := by
  cases raw with
  | none => exact (List.append_nil _).symm
  | some device => exact bus.unrefDevice_journal device

end Bus

/-! ## A whole switch -/

theorem Device.takeReference_eq (raw : Address) (world : World) :
    takeReference raw world = { world with bus := world.bus.run (Bus.taking raw.owned?) } := by
  unfold takeReference Address.owned?
  split <;> rfl

theorem Device.dispose_eq (owner : Owner Address) (world : World) :
    owner.dispose disposal world =
      { world with bus := world.bus.run (Bus.givingBack owner.raw) } := by
  unfold Owner.dispose
  cases owner.raw <;> rfl

theorem Device.reset_eq (device : Device) (raw : Address) (world : World) :
    device.reset raw world =
      ({ device with owner := .ofRaw raw.owned? },
        { world with
          bus := (world.bus.run (Bus.taking raw.owned?)).run (Bus.givingBack device.owner.raw) }) := by
  simp only [reset, Owner.reset, referenced_eq, takeReference_eq, dispose_eq]

/-- What it does to a client and its bus that the device value under `name` is switched to `raw`. -/
structure Device.Switches (device : Device) (name : String) (raw : Address)
    (before after : Client) : Prop where
  calls : after.session.world.bus =
    (before.session.world.bus.run (Bus.taking raw.owned?)).run (Bus.givingBack device.owner.raw)
  journal : after.session.world.bus.journal = before.session.world.bus.journal ++
    (raw.owned?.toList.map fun _ => { function := .refDevice }) ++
    device.owner.raw.toList.map fun _ => { function := .unrefDevice }
  /-- Between the calls old and new are both kept. -/
  between : (before.session.world.bus.run (Bus.taking raw.owned?)).Secure
    (raw.owned?.toList.map .reference ++ before.titles)
  secure : after.session.world.bus.Secure after.titles
  references : ∀ other,
    after.session.world.bus.references other +
        (if device.owner.raw = some other then 1 else 0) =
      before.session.world.bus.references other + if raw.owned? = some other then 1 else 0
  value : after.session.resources.device? name = some { device with owner := .ofRaw raw.owned? }
  log : after.session.world.log = before.session.world.log

namespace Client

variable {terms : Terms} {client : Client} {name : String} {device : Device}

/-- The titles besides that of a device value. -/
theorem Kept.titles_device (kept : client.Kept terms)
    (found : client.session.resources.device? name = some device) :
    ∃ others, client.titles.Perm (device.owner.raw.toList.map .reference ++ others) := by
  have inside := Resources.find?_perm kept.named (Resources.device?_eq_some found)
  have first : client.titles.Perm _ := Custody.titles_perm inside
  rw [Custody.titles_cons, Resource.title?, Option.toList_map] at first
  exact ⟨_, first⟩

theorem act_reset (found : client.session.resources.device? name = some device) (raw : Address) :
    (client.act (.step (.device (.reset name raw)))).session =
      client.session.update name (.device { device with owner := .ofRaw raw.owned? })
        (device.reset raw client.session.world).2 := by
  simp [act, Session.step, DeviceStep.perform, Session.withSlot, found, Session.answer,
    Device.reset_eq]

/-- In every reachable state a device value is switched safely, whatever it names before and
whatever it is to name, and whoever else still has a reference. -/
theorem run_switches (acts : List Act) (permitted : fresh.Permitted .free acts) (name : String)
    (device : Device)
    (found : (fresh.run acts).session.resources.device? name = some device) (raw : Address)
    (attached : raw = 0 ∨ (fresh.run acts).session.world.bus.Knows raw) :
    device.Switches name raw (fresh.run acts)
      ((fresh.run acts).act (.step (.device (.reset name raw)))) := by
  obtain ⟨-, kept⟩ := run_leads (fresh_kept rfl) acts permitted
  generalize fresh.run acts = client at found attached kept
  have known : ∀ device ∈ raw.owned?, client.session.world.bus.Knows device := by
    intro device member
    unfold Address.owned? at member
    split at member
    · contradiction
    · next nonNull =>
      cases member
      exact attached.resolve_left nonNull
  have permits : client.Permits .free (.step (.device (.reset name raw))) :=
    .of_plain rfl known rfl rfl rfl
  obtain ⟨-, keptAfter⟩ := act_leads kept _ permits
  have session := act_reset found raw
  have backs : client.session.world.bus.Backs client.ledger.returned client.titles :=
    kept.sound.backs
  -- After the first call the old reference stands beside the new one, twice if they are one device;
  -- so there is one to give back.
  have taken := backs.run_taking known
  obtain ⟨others, split⟩ := kept.titles_device found
  have owned : (client.session.world.bus.run (Bus.taking raw.owned?)).Backs _
      (device.owner.raw.toList.map .reference ++ _) :=
    taken.perm ((split.append_left _).trans (List.perm_append_comm_assoc ..))
  have calls : (client.act (.step (.device (.reset name raw)))).session.world.bus =
      (client.session.world.bus.run (Bus.taking raw.owned?)).run
        (Bus.givingBack device.owner.raw) := by
    rw [session, Device.reset_eq]
    rfl
  exact
    { calls
      journal := by rw [calls, Bus.run_givingBack_journal, Bus.run_taking_journal]
      between := taken.secure
      secure := keptAfter.sound.backs.secure
      references := by
        intro other
        rw [calls, owned.run_givingBack_references, Bus.run_taking_references known]
      value := by
        rw [session]
        exact Resources.device?_put
      log := by
        rw [session, Device.reset_eq]
        rfl }

/-- A device to which only one value has a reference, besides a second device. -/
def lastReferenceRun : List Act :=
  [.step (.control (.attach {})), .step (.control (.attach {})),
    .step (.device (.adopt "device" 4096 none)), .returnReference 4096]

/-- The last reference is not lost where the value is switched to the device that it names. -/
theorem run_switches_same :
    let client := fresh.run lastReferenceRun
    let device : Device := { library := {}, owner := ⟨some 4096⟩ }
    fresh.Permitted .free lastReferenceRun ∧
      client.session.resources.device? "device" = some device ∧
      client.session.world.bus.references 4096 = 1 ∧
      device.Switches "device" 4096 client
        (client.act (.step (.device (.reset "device" 4096)))) := by
  intro client device
  have permitted : fresh.Permitted .free lastReferenceRun := by decide
  have found : client.session.resources.device? "device" = some device := rfl
  have attached : client.session.world.bus.Knows 4096 := by
    unfold Bus.Knows
    decide
  exact ⟨permitted, found, by decide,
    run_switches lastReferenceRun permitted "device" device found 4096 (.inr attached)⟩

end Client

end UsbHost
