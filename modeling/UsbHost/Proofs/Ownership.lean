import UsbHost.Proofs.ClientMoves

/-!
# Ownership

The accounts of a client after any run: the references to a device are those of the bus itself, of
the lists, the device values and the open handles, and those that the client holds in its own
hands; everything else that is alive on the bus is owned exactly once; and no call was a misuse.
-/

set_option autoImplicit false

namespace UsbHost

namespace Resource

def lists (device : Address) : Resource → Bool
  | .list value => value.array.elim false fun array => array.entries.contains device
  | _ => false

def names (device : Address) : Resource → Bool
  | .device value => value.owner.raw == some device
  | _ => false

theorem holds_title (device : Address) (resource : Resource) :
    (resource.title?.map (Title.holds device)).getD false =
      (resource.lists device || resource.names device) := by
  cases resource with
  | context value => cases owned : value.owner.raw <;> simp [title?, lists, names, owned]
  | list value => cases owned : value.array <;> simp [title?, lists, names, owned]
  | device value => cases owned : value.owner.raw <;> simp [title?, lists, names, owned]
  | handle value => cases owned : value.owner.raw <;> simp [title?, lists, names, owned]
  | descriptor value => cases owned : value.owner.raw <;> simp [title?, lists, names, owned]

theorem lists_or_names (device : Address) (resource : Resource) :
    (resource.lists device && resource.names device) = false := by
  cases resource <;> simp [lists, names]

end Resource

namespace Client

/-- All titles that are out: those of the resources, and those in the client's hands. -/
def titles (client : Client) : List Title :=
  client.custody.titles

/-- The accounts of a client: who holds the references to each device, and who owns what else is
alive on the bus. -/
structure Accounted (client : Client) : Prop where
  references : ∀ attached ∈ client.session.world.bus.devices, attached.references =
    (if attached.id ∈ client.ledger.returned then 0 else 1) +
      client.session.owners.countP (Resource.lists attached.id) +
      client.session.owners.countP (Resource.names attached.id) +
      client.session.world.bus.handlesOn attached.id +
      client.ledger.pending.count (.reference attached.id)
  contexts : client.session.world.bus.contexts.Nodup ∧
    client.session.world.bus.contexts.Perm (client.titles.filterMap Title.context?)
  handles : (client.session.world.bus.handles.map OpenHandle.id).Nodup ∧
    (client.session.world.bus.handles.map OpenHandle.id).Perm
      (client.titles.filterMap Title.handle?)
  lists : (client.session.world.bus.lists.map DeviceArray.block).Nodup ∧
    client.session.world.bus.lists.Perm (client.titles.filterMap Title.array?)
  descriptors : client.session.world.bus.descriptors.Nodup ∧
    (client.session.world.bus.descriptors.map BlockRef.block).Perm
      (client.titles.filterMap Title.record?)
  misuse : client.session.world.bus.misuse = []
  settled : client.session.resources = [] → client.ledger.pending = [] →
    client.session.world.bus.contexts = [] ∧ client.session.world.bus.handles = [] ∧
    client.session.world.bus.lists = [] ∧ client.session.world.bus.descriptors = [] ∧
    ∀ attached ∈ client.session.world.bus.devices, attached.references =
      if attached.id ∈ client.ledger.returned then 0 else 1

end Client

theorem countP_or {α : Type} (left right : α → Bool) (items : List α)
    (disjoint : ∀ item, (left item && right item) = false) :
    items.countP (fun item => left item || right item) =
      items.countP left + items.countP right := by
  induction items with
  | nil => rfl
  | cons item rest ih =>
    have apart := disjoint item
    rw [List.countP_cons, List.countP_cons, List.countP_cons, ih]
    cases isLeft : left item <;> cases isRight : right item
    · simp
    · simp; omega
    · simp; omega
    · simp [isLeft, isRight] at apart

/-- The resources that hold a reference are the lists and the device values. -/
theorem countP_titles (device : Address) (owners : List Resource) :
    (owners.filterMap Resource.title?).countP (Title.holds device) =
      owners.countP (Resource.lists device) + owners.countP (Resource.names device) := by
  rw [List.countP_filterMap, ← countP_or _ _ _ (Resource.lists_or_names device)]
  refine List.countP_congr fun resource _ => ?_
  rw [Resource.holds_title]

/-- In the client's hands only a device reference holds a reference. -/
theorem countP_pending (device : Address) {pending : List Title}
    (noArrays : ∀ title ∈ pending, title.array? = none) :
    pending.countP (Title.holds device) = pending.count (.reference device) := by
  refine List.countP_congr fun title member => ?_
  cases title with
  | array value => exact absurd (noArrays _ member) (by simp [Title.array?])
  | reference held => simp
  | context raw | handle raw | record ref => simp

/-- Once no title is out, nothing is alive and only the bus itself holds references. -/
theorem Bus.Backs.settled {bus : Bus} {returned : List Address} (backs : bus.Backs returned []) :
    bus.contexts = [] ∧ bus.handles = [] ∧ bus.lists = [] ∧ bus.descriptors = [] ∧
      ∀ attached ∈ bus.devices, attached.references = ownShare returned attached.id := by
  have handles : bus.handles = [] := List.map_eq_nil_iff.mp backs.handles_perm.eq_nil
  refine ⟨backs.contexts_perm.eq_nil, handles, backs.lists_perm.eq_nil,
    List.map_eq_nil_iff.mp backs.descriptors_perm.eq_nil, fun attached member => ?_⟩
  have shares := backs.references attached member
  rw [handlesOn, handles] at shares
  exact shares

namespace Client

theorem Kept.accounted {terms : Terms} {client : Client} (kept : client.Kept terms) :
    client.Accounted := by
  have backs : client.session.world.bus.Backs client.ledger.returned client.titles :=
    kept.sound.backs
  exact
    { references := by
        intro attached member
        have shares := backs.references attached member
        have split : client.titles.countP (Title.holds attached.id) =
            client.session.owners.countP (Resource.lists attached.id) +
              client.session.owners.countP (Resource.names attached.id) +
              client.ledger.pending.count (.reference attached.id) := by
          have pending := countP_pending attached.id kept.sound.noArrays
          rw [titles, Custody.titles, List.countP_append, countP_titles]
          exact congrArg _ pending
        rw [shares, split, Bus.ownShare]
        omega
      contexts := ⟨backs.orderly.contexts.nodup, backs.contexts_perm⟩
      handles := ⟨backs.orderly.handles.nodup, backs.handles_perm⟩
      lists := ⟨backs.orderly.lists.nodup, backs.lists_perm⟩
      descriptors := ⟨backs.orderly.descriptors.nodup, backs.descriptors_perm⟩
      misuse := backs.misuse
      settled := by
        intro noResources noPending
        have none : client.titles = [] := by
          simp [titles, Custody.titles, Client.custody, Session.custody, Session.owners,
            noResources, noPending]
        rw [none] at backs
        exact backs.settled }

/-- After any run that keeps to the rules the accounts are right: whatever fails, whatever the
policies say, and in whatever order resources end. -/
theorem run_accounted (acts : List Act) (permitted : fresh.Permitted .free acts) :
    (fresh.run acts).Accounted :=
  (run_leads (fresh_kept rfl) acts permitted).2.accounted

/-- A device is shared by a list, two values and a handle. One reference and the handle come out of
a release, the bus's own reference is given back, and the context goes first. -/
def sharedRun : List Act :=
  [.step (.control (.attach {})), .step (.context (.start "context" .defaults)),
    .step (.list (.enumerate "list" "context")), .step (.list (.device "list" 0 "device")),
    .step (.device (.openHandle "device" "handle")), .step (.handle (.claim "handle" 0)),
    .step (.device (.clone "device" "copy")), .step (.device (.release "copy")),
    .step (.control (.fail "libusb_release_interface" (-1))), .step (.handle (.release "handle")),
    .step (.handle (.adopt "again" 4128)), .giveBack (.reference 4096), .returnReference 4096,
    .step (.drop .context "context")]

theorem run_accounted_shared :
    fresh.Permitted .free sharedRun ∧ (fresh.run sharedRun).session.world.bus.references 4096 = 3 ∧
      (fresh.run sharedRun).Accounted := by
  have permitted : fresh.Permitted .free sharedRun := by decide
  exact ⟨permitted, by decide, run_accounted sharedRun permitted⟩

end Client

end UsbHost
