import UsbHost.Proofs.Attachments
import UsbHost.Proofs.Closing
import UsbHost.Proofs.ListSizes
import UsbHost.Proofs.Switching

/-!
# Lists as snapshots

A list holds the devices that were attached when it was made, in the order in which they were. What
happens on the bus later has no bearing on it, and what it holds stays attached for as long as the
list lives.
-/

set_option autoImplicit false

namespace UsbHost

variable {list : DeviceList} {ids : List Address} {world : World} {session : Session}

namespace DeviceList

/-- Everything that can be read off the list agrees with a sequence of devices. -/
structure Shows (list : DeviceList) (ids : List Address) : Prop where
  entries : list.entries = ids
  size : list.size = ids.length
  isEmpty : list.isEmpty ↔ ids = []
  first : list.first? = ids.head?
  last : list.last? = ids.getLast?
  get : ∀ index, list.get? index = ids[index]?
  entryAt : ∀ index, list.entryAt index =
    (ids[index]?).elim (.error { index, size := ids.length }) .ok

theorem shows (entries : list.entries = ids) (sized : list.Sized) : list.Shows ids := by
  have size := sized.size
  have empty := sized.isEmpty
  rw [entries] at size empty
  refine ⟨entries, size, empty, congrArg _ entries, congrArg _ entries, ?_, ?_⟩
  · exact fun index => by rw [get?, entries]
  · intro index
    rw [DeviceList.entryAt, get?, entries, size]
    cases ids[index]? <;> rfl

/-- A device value for each entry, with the list's policies. -/
def named (list : DeviceList) (raw : Address) : Device where
  library := list.library
  owner := ⟨some raw⟩

theorem ofRaw_named {raw : Address} (nonNull : raw ≠ 0) (world : World) :
    (Device.ofRaw list.library raw world).1 = list.named raw := by
  simp only [Device.ofRaw, Device.referenced_eq, Address.owned?, if_neg nonNull]
  rfl

theorem devicesOf_named {entries : List Address} (nonNull : ∀ raw ∈ entries, raw ≠ 0)
    (world : World) : (devicesOf list.library entries world).1 = entries.map list.named := by
  induction entries generalizing world with
  | nil => rfl
  | cons raw rest ih =>
    obtain ⟨first, others⟩ := List.forall_mem_cons.mp nonNull
    exact congr (congrArg List.cons (ofRaw_named first world)) (ih others _)

/-- What a session finds in a list and keeps for it. -/
structure Serves (list : DeviceList) (ids : List Address) (session : Session) : Prop where
  indexed : ∀ name index, session.resources.list? name = some list →
    (session.step (.list (.index name index))).1 = match ids[index]? with
      | some raw => .answer (.address (some raw))
      | none => .refused (.indexOutOfBounds ids.length index)
  device : ∀ index, (list.device? index session.world).1 = (ids[index]?).map list.named
  devices : ∀ backwards, (list.devices backwards session.world).1 =
    (if backwards then ids.reverse else ids).map list.named
  held : ∀ raw ∈ ids, session.world.bus.Knows raw ∧ 0 < session.world.bus.references raw
  dropped : ∀ other, (list.drop session.world).bus.references other +
    (if other ∈ ids then 1 else 0) = session.world.bus.references other

end DeviceList

/-! ## References -/

namespace Bus

variable {bus : Bus} {returned : List Address} {titles : List Title} {array : DeviceArray}

/-- Freeing an array gives back one reference to each entry. -/
theorem Backs.freeDeviceList_references (backs : bus.Backs returned titles)
    (owned : .array array ∈ titles) (other : Address) :
    (bus.freeDeviceList (.block array.block) 1).references other +
      (if other ∈ array.entries then 1 else 0) = bus.references other := by
  have once : array.entries.Nodup := backs.orderly.entries array (backs.array_mem owned)
  have share : array.entries.count other = if other ∈ array.entries then 1 else 0 := once.count
  have taken : (bus.freeDeviceList (.block array.block) 1).references other =
      bus.references other - array.entries.count other := by
    rw [(backs.perm (List.perm_cons_erase owned)).freeDeviceList_eq]
    exact bus.takeOff_references (fun device => bus.share device (.array array)) other
  rw [taken, share]
  split
  · next entry =>
    have held : 0 < bus.references other :=
      backs.secure.titled _ owned other (by simpa [Title.holds] using entry)
    omega
  · rfl

end Bus

namespace Session.Kept

variable {terms : Terms} {ledger : Ledger} {array : DeviceArray}

theorem serves (kept : Kept terms session ledger) (alive : .list list ∈ session.owners)
    (owned : list.array = some array) (shows : list.Shows array.entries) :
    list.Serves array.entries session := by
  have backs := kept.sound.backs
  have title : .array array ∈ (session.custody ledger).titles :=
    Custody.mem_titles alive (by simp [Resource.title?, owned])
  have nonNull : ∀ raw ∈ array.entries, raw ≠ 0 := fun raw entry =>
    (kept.listed alive (shows.entries ▸ entry)).1
  constructor
  · intro name index found
    simp only [step, ListStep.perform, found, withSlot, shows.get, shows.entries]
    cases array.entries[index]? <;> rfl
  · intro index
    unfold DeviceList.device?
    rw [shows.get]
    cases found : array.entries[index]? with
    | none => rfl
    | some raw =>
      exact congrArg some
        (DeviceList.ofRaw_named (nonNull raw (List.mem_of_getElem? found)) session.world)
  · intro backwards
    unfold DeviceList.devices
    rw [shows.entries]
    apply DeviceList.devicesOf_named
    cases backwards with
    | false => exact nonNull
    | true => exact fun raw entry => nonNull raw (List.mem_reverse.mp entry)
  · intro raw entry
    have holds : (Title.array array).holds raw := by simpa [Title.holds] using entry
    exact ⟨backs.known _ title raw holds, backs.secure.titled _ title raw holds⟩
  · intro other
    unfold DeviceList.drop
    rw [owned]
    exact backs.freeDeviceList_references title other

end Session.Kept

namespace Client

/-- A list that was enumerated without an injected code holds the devices attached until then, in
order, and whatever happens later it keeps holding them for as long as it lives. A machine word has
to count the devices, for the list keeps their number in one. -/
theorem run_snapshot (earlier : List Act) (permitted : fresh.Permitted .free earlier)
    (target source : String) (context : Context)
    (found : (fresh.run earlier).session.resources.context? source = some context)
    (regular : (fresh.run earlier).session.world.bus.injected .getDeviceList = none)
    (fits : (fresh.attached earlier).length < UInt64.size) :
    let enumerate : Step := .list (.enumerate target source)
    let made := (fresh.run earlier).act (.step enumerate)
    ((fresh.run earlier).session.step enumerate).1 = .answer .done ∧
      ∃ list, made.session.resources.list? target = some list ∧
        (fresh.attached earlier).Pairwise (· < ·) ∧ list.Shows (fresh.attached earlier) ∧
        ∀ later, made.Permitted .free later → .list list ∈ (made.run later).session.owners →
          (∀ raw ∈ made.attached later, raw ∉ list.entries) ∧
            list.Serves (fresh.attached earlier) (made.run later).session := by
  intro enumerate made
  have kept := (run_leads (fresh_kept rfl) earlier permitted).2
  have populated := run_populated fresh_populated earlier
  rw [List.nil_append] at populated
  have devices : (fresh.run earlier).session.world.bus.enumeration.entries =
      fresh.attached earlier := populated.table
  have length : (fresh.run earlier).session.world.bus.devices.length < UInt64.size := by
    rw [← populated.table, List.length_map] at fits
    exact fits
  obtain ⟨list, after, reached, sized, owned, entries⟩ :=
    DeviceList.enumerate_array context regular length
  have shows : list.Shows (fresh.attached earlier) :=
    DeviceList.shows (entries.trans devices) sized
  have step : (fresh.run earlier).session.step enumerate =
      Session.storing target (.list list) { (fresh.run earlier).session with world := after } := by
    simp only [enumerate, Session.step, ListStep.perform, found, Session.withSlot,
      Session.perform, reached]
  refine ⟨by rw [step]; rfl, list, ?_, populated.ordered, shows, ?_⟩
  · change ((fresh.run earlier).session.step enumerate).2.resources.list? target = some list
    rw [step]
    simp [Session.storing, Session.answer]
  · intro later permittedLater alive
    have permits : (fresh.run earlier).PermitsStep .free enumerate :=
      .of_plain rfl (by simp [enumerate, Step.namedDevice?]) rfl rfl rfl
    have keptMade := (act_leads kept (.step enumerate) permits).2
    have keptLater := (run_leads keptMade later permittedLater).2
    have populatedLater := run_populated (act_populated populated (.step enumerate)) later
    constructor
    · intro raw plugged entry
      rw [shows.entries] at entry
      have apart := List.disjoint_of_nodup_append populatedLater.nodup
      exact apart (List.mem_append_left _ entry) plugged
    · have serves := keptLater.serves alive owned (devices ▸ shows)
      rw [devices] at serves
      exact serves

/-- Two devices and a context to enumerate them. -/
def pluggedRun : List Act :=
  [.step (.control (.attach {})), .step (.control (.attachMany 1 {})),
    .step (.context (.start "context" .session))]

def pluggedClient : Client :=
  (fresh.run pluggedRun).act (.step (.list (.enumerate "list" "context")))

def pluggedList : DeviceList where
  library := {}
  array := some { block := 0, entries := [4096, 4112] }
  size := 2

/-- One more device, one more list, and an open handle; then the context goes. -/
def pluggedOnRun : List Act :=
  [.step (.control (.attach {})), .step (.list (.enumerate "other" "context")),
    .step (.list (.device "list" 1 "device")), .step (.device (.openHandle "device" "handle")),
    .step (.device (.reset "device" 0)), .step (.drop .context "context")]

theorem run_snapshot_plugged :
    fresh.Permitted .free pluggedRun ∧ pluggedClient.Permitted .free pluggedOnRun ∧
      pluggedClient.session.resources.list? "list" = some pluggedList ∧
      .list pluggedList ∈ (pluggedClient.run pluggedOnRun).session.owners ∧
      fresh.attached pluggedRun = [4096, 4112] ∧
      pluggedClient.attached pluggedOnRun = [4144] ∧ pluggedList.Shows [4096, 4112] ∧
      pluggedList.Serves [4096, 4112] (pluggedClient.run pluggedOnRun).session := by
  have permitted : fresh.Permitted .free pluggedRun := by decide
  have permittedLater : pluggedClient.Permitted .free pluggedOnRun := by decide
  have alive : .list pluggedList ∈ (pluggedClient.run pluggedOnRun).session.owners :=
    @Resources.mem_of_find? _ .list "list" _ rfl
  have found : (fresh.run pluggedRun).session.resources.context? "context" =
      some { library := {}, owner := ⟨some 4128⟩ } := rfl
  have same : pluggedClient.session.resources.list? "list" = some pluggedList := rfl
  obtain ⟨-, list, listed, -, shows, later⟩ :=
    run_snapshot pluggedRun permitted "list" "context" _ found (by decide) (by decide)
  obtain rfl := Option.some.inj (listed.symm.trans same)
  exact ⟨permitted, permittedLater, same, alive, by decide, by decide, shows,
    (later pluggedOnRun permittedLater alive).2⟩

end Client

end UsbHost
