import UsbHost.Proofs.Teardown

/-!
# What giving back leaves

The bus after something was given back, written down as a function of the bus before: the thing is
gone, and the references that went with it are taken off their devices. The order in which things
are given back makes no difference to it.
-/

set_option autoImplicit false

namespace UsbHost

/-- The journal entry of the call that gives a title back. -/
def Title.returnEntry : Title → JournalEntry
  | context _ => { function := .exitLibrary }
  | array _ => { function := .freeDeviceList, argument := some 1 }
  | reference _ => { function := .unrefDevice }
  | handle _ => { function := .closeHandle }
  | record _ => { function := .freeConfigDescriptor }

namespace Bus

variable {bus before after : Bus} {returned : List Address} {title other : Title}
  {titles : List Title} {raw : Address}

/-- How many references to a device go when a title is given back. -/
def share (bus : Bus) (device : Address) : Title → Nat
  | .array array => array.entries.count device
  | .reference held => [held].count device
  | .handle raw => ((bus.handle? raw).map OpenHandle.device).toList.count device
  | .context _ | .record _ => 0

def takeOff (bus : Bus) (count : Address → Nat) : Bus :=
  { bus with devices := bus.devices.map fun attached =>
      { attached with references := attached.references - count attached.id } }

/-- The bus after a title was given back, but for the journal. -/
def without (bus : Bus) (title : Title) : Bus :=
  { bus.takeOff fun device => bus.share device title with
    contexts := bus.contexts.filter fun raw => .context raw ≠ title
    lists := bus.lists.filter fun array => .array array ≠ title
    handles := bus.handles.filter fun opened => .handle opened.id ≠ title
    descriptors := bus.descriptors.filter fun serial => .record (.block serial) ≠ title }

/-! ## References -/

theorem takeOff_takeOff (bus : Bus) (first second : Address → Nat) :
    (bus.takeOff first).takeOff second =
      bus.takeOff fun device => first device + second device := by
  simp [takeOff, Nat.sub_sub]

theorem takeOff_none (bus : Bus) : (bus.takeOff fun _ => 0) = bus := by
  simp [takeOff]

theorem takeOff_references (bus : Bus) (count : Address → Nat) (other : Address) :
    (bus.takeOff count).references other = bus.references other - count other := by
  have found : (bus.takeOff count).device? other = (bus.device? other).map fun attached =>
      { attached with references := attached.references - count attached.id } :=
    List.find?_map ..
  rw [references, references, found]
  cases known : bus.device? other with
  | none => exact (Nat.zero_sub _).symm
  | some attached =>
    have same : attached.id = other := by simpa using List.find?_some known
    rw [← same]
    rfl

theorem modifyReferences_eq_takeOff (bus : Bus) (device : Address) :
    bus.modifyReferences device (· - 1) = bus.takeOff fun other => [device].count other := by
  unfold modifyReferences takeOff
  congr 1
  refine List.map_congr_left fun attached _ => ?_
  by_cases same : attached.id = device
  · simp [same]
  · simp [same, Ne.symm same]

theorem Backs.giveBackAll_eq {entries : List Address} (function : NativeFunction)
    (backs : bus.Backs returned (entries.map Title.reference ++ titles)) :
    entries.foldl (fun bus device => bus.giveBack function device) bus =
      bus.takeOff fun device => entries.count device := by
  induction entries generalizing bus with
  | nil => exact bus.takeOff_none.symm
  | cons device rest ih =>
    have later := backs.giveBack function
    rw [backs.giveBack_eq List.mem_cons_self, modifyReferences_eq_takeOff] at later
    rw [List.foldl_cons, backs.giveBack_eq List.mem_cons_self, modifyReferences_eq_takeOff,
      ih later, takeOff_takeOff]
    congr 1
    funext other
    rw [← List.count_append, List.singleton_append]

/-! ## One call -/

theorem Backs.closeHandle_eq (backs : bus.Backs returned (.handle raw :: titles)) :
    bus.closeHandle raw =
      { bus.without (.handle raw) with
        journal := bus.journal ++ [(Title.handle raw).returnEntry] } := by
  obtain ⟨opened, found⟩ := backs.handle_open List.mem_cons_self
  have recorded : (bus.record .closeHandle).handle? raw = some opened := found
  have gone := ((backs.unseatHandle found).journal
    (bus.journal ++ [(Title.handle raw).returnEntry])).giveBack_eq List.mem_cons_self .closeHandle
  unfold Bus.closeHandle
  dsimp only
  rw [recorded]
  refine gone.trans ?_
  rw [modifyReferences_eq_takeOff]
  simp [without, takeOff, share, found]

theorem Backs.freeDeviceList_eq {array : DeviceArray}
    (backs : bus.Backs returned (.array array :: titles)) :
    bus.freeDeviceList (.block array.block) 1 =
      { bus.without (.array array) with
        journal := bus.journal ++ [(Title.array array).returnEntry] } := by
  have inside := backs.array_mem List.mem_cons_self
  have found : (bus.record .freeDeviceList (some 1)).array? (.block array.block) = some array :=
    array?_block (backs.journal _).orderly inside
  have freed : (bus.lists.filter fun candidate => candidate.block ≠ array.block) =
      bus.lists.filter fun candidate => Title.array candidate ≠ .array array := by
    refine List.filter_congr fun candidate member => ?_
    have same : candidate.block = array.block ↔ candidate = array :=
      ⟨Keyed.eq_of_mem backs.orderly.lists.nodup member inside, congrArg _⟩
    simp [same]
  have gone := (backs.dropArray.journal
    (bus.journal ++ [(Title.array array).returnEntry])).giveBackAll_eq .freeDeviceList
  unfold Bus.freeDeviceList
  dsimp only
  rw [found]
  dsimp only
  rw [if_neg (by decide)]
  refine gone.trans ?_
  rw [freed]
  simp [without, takeOff, share]

theorem Backs.exitLibrary_eq (backs : bus.Backs returned (.context raw :: titles)) :
    bus.exitLibrary raw =
      { bus.without (.context raw) with
        journal := bus.journal ++ [(Title.context raw).returnEntry] } := by
  have alive : raw ∈ bus.contexts := backs.context_mem List.mem_cons_self
  unfold Bus.exitLibrary
  dsimp only [record]
  rw [if_pos alive]
  simp [without, takeOff, share, Title.returnEntry]

theorem Backs.unrefDevice_eq {device : Address}
    (backs : bus.Backs returned (.reference device :: titles)) :
    bus.unrefDevice device =
      { bus.without (.reference device) with
        journal := bus.journal ++ [(Title.reference device).returnEntry] } := by
  have gone := (backs.journal (bus.journal ++ [(Title.reference device).returnEntry])).giveBack_eq
    List.mem_cons_self .unrefDevice
  refine gone.trans ?_
  rw [modifyReferences_eq_takeOff]
  simp [without, takeOff, share]

theorem Backs.freeConfigDescriptor_eq {ref : BlockRef}
    (backs : bus.Backs returned (.record ref :: titles)) :
    bus.freeConfigDescriptor ref =
      { bus.without (.record ref) with
        journal := bus.journal ++ [(Title.record ref).returnEntry] } := by
  obtain ⟨serial, alive, rfl⟩ := backs.record_mem List.mem_cons_self
  have found : (bus.record .freeConfigDescriptor).descriptors.any
      (fun candidate => BlockRef.block candidate == .block serial) :=
    List.any_eq_true.mpr ⟨serial, alive, by simp⟩
  unfold Bus.freeConfigDescriptor
  dsimp only
  rw [if_pos found]
  simp [without, takeOff, share, Title.returnEntry, record]

/-- The call that a title asks for leaves the bus without the title. -/
theorem Backs.returnCall_eq (backs : bus.Backs returned (title :: titles)) :
    (title.returnCall.perform bus).2 =
      { bus.without title with journal := bus.journal ++ [title.returnEntry] } := by
  cases title with
  | context raw => exact backs.exitLibrary_eq
  | array array => exact backs.freeDeviceList_eq
  | reference device => exact backs.unrefDevice_eq
  | handle raw => exact backs.closeHandle_eq
  | record ref => exact backs.freeConfigDescriptor_eq

/-! ## Several calls -/

theorem share_without (bus : Bus) (device : Address) (different : title ≠ other) :
    (bus.without title).share device other = bus.share device other := by
  cases other with
  | context raw | array array | reference held | record ref => rfl
  | handle raw =>
    have kept : (bus.without title).handle? raw = bus.handle? raw := by
      cases title with
      | handle closed =>
        have apart : raw ≠ closed := fun same => different (same ▸ rfl)
        have spared := removeHandle_handle? bus apart
        simpa [without, handle?] using spared
      | context _ | array _ | reference _ | record _ => simp [without, handle?]
    rw [share, share, kept]

theorem takeOff_share_without (bus : Bus) (different : title ≠ other) :
    ((bus.without title).without other).devices =
      (bus.takeOff fun device => bus.share device title + bus.share device other).devices := by
  simp only [without, takeOff, List.map_map]
  refine List.map_congr_left fun attached _ => ?_
  have kept := bus.share_without attached.id different
  simp only [without, takeOff] at kept
  simp only [Function.comp_apply, kept, Nat.sub_sub]

/-- It makes no difference which of two titles is given back first. -/
theorem without_comm (bus : Bus) (title other : Title) :
    (bus.without title).without other = (bus.without other).without title := by
  by_cases same : title = other
  · rw [same]
  · have devices : ((bus.without title).without other).devices =
        ((bus.without other).without title).devices := by
      rw [takeOff_share_without bus same, takeOff_share_without bus (Ne.symm same)]
      simp only [Nat.add_comm]
    unfold without takeOff at devices ⊢
    rw [Bus.mk.injEq]
    exact ⟨rfl, rfl, List.filter_comm .., devices, List.filter_comm .., List.filter_comm ..,
      List.filter_comm .., rfl, rfl, rfl, rfl⟩

/-! ## Releasing the interfaces of a handle -/

/-- Nothing differs but the journal and the claims through one handle. -/
structure Reclaimed (raw : Address) (before after : Bus) : Prop where
  same : after = { before with handles := after.handles, journal := after.journal }
  others : (after.handles.filter fun opened => opened.id ≠ raw) =
    before.handles.filter fun opened => opened.id ≠ raw
  device : (after.handle? raw).map OpenHandle.device = (before.handle? raw).map OpenHandle.device

theorem Reclaimed.refl (raw : Address) (bus : Bus) : Reclaimed raw bus bus :=
  ⟨rfl, rfl, rfl⟩

theorem Reclaimed.trans {last : Bus} (first : Reclaimed raw before after)
    (second : Reclaimed raw after last) : Reclaimed raw before last where
  same := by
    rw [second.same, first.same]
  others := second.others.trans first.others
  device := second.device.trans first.device

theorem Untouched.reclaimed (untouched : before.Untouched after) : Reclaimed raw before after := by
  obtain ⟨entry, rfl⟩ := untouched
  exact ⟨rfl, rfl, rfl⟩

theorem Releases.reclaimed {opened : OpenHandle} {interface code : Int}
    (found : before.handle? opened.id = some opened)
    (releases : before.Releases opened interface code after) :
    Reclaimed opened.id before after := by
  cases releases with
  | refused untouched => exact untouched.reclaimed
  | released member =>
    have changed : (before.modifyHandle opened.id fun opened =>
        { opened with claimed := opened.claimed.erase interface }).handle? opened.id =
        some { opened with claimed := opened.claimed.erase interface } :=
      modifyHandle_found found fun _ => rfl
    refine ⟨rfl, ?_, ?_⟩
    · refine Keyed.filter_update before.handles ?_ opened.id
      exact fun _ => rfl
    · exact (congrArg (Option.map OpenHandle.device) changed).trans (by rw [found]; rfl)

/-- Whatever was claimed through a handle is gone with the handle. -/
theorem Reclaimed.without (reclaimed : Reclaimed raw before after) :
    after.without (.handle raw) =
      { before.without (.handle raw) with journal := after.journal } := by
  have closed : (after.handles.filter fun opened => Title.handle opened.id ≠ .handle raw) =
      before.handles.filter fun opened => Title.handle opened.id ≠ .handle raw := by
    simpa using reclaimed.others
  have shares (device : Address) :
      after.share device (.handle raw) = before.share device (.handle raw) := by
    rw [share, share, reclaimed.device]
  unfold Bus.without
  simp only [closed, shares]
  rw [reclaimed.same]
  rfl

/-- The bus after several titles were given back, but for the journal. -/
def withoutAll (bus : Bus) (titles : List Title) : Bus :=
  titles.foldl without bus

theorem withoutAll_append (bus : Bus) (first second : List Title) :
    bus.withoutAll (first ++ second) = (bus.withoutAll first).withoutAll second :=
  List.foldl_append

theorem withoutAll_journal (bus : Bus) (titles : List Title) (journal : List JournalEntry) :
    { bus with journal }.withoutAll titles = { bus.withoutAll titles with journal } := by
  induction titles generalizing bus with
  | nil => rfl
  | cons title rest ih => exact ih (bus.without title)

/-- It makes no difference in which order titles are given back. -/
theorem withoutAll_perm {first second : List Title} (bus : Bus) (perm : first.Perm second) :
    bus.withoutAll first = bus.withoutAll second :=
  perm.foldl_eq' (fun title _ other _ bus => bus.without_comm title other) bus

end Bus

/-! ## One resource -/

variable {world : World} {returned : List Address} {titles : List Title}

theorem Handle.releaseAll_reclaimed (library : Library) {raw : Address} {opened : OpenHandle}
    (found : world.bus.handle? raw = some opened) (interfaces : List UInt8) :
    Bus.Reclaimed raw world.bus (interfaces.foldl (releaseOne library raw) world).bus := by
  induction interfaces generalizing world opened with
  | nil => exact .refl ..
  | cons interface rest ih =>
    obtain rfl := Bus.handle?_id found
    obtain ⟨later, foundLater, -⟩ := (releaseOne_steady library found interface).handle? found
    have first := Bus.releaseInterface_releases found (nativeInterface interface)
    exact (first.reclaimed found).trans (ih foundLater)

namespace Resource

/-- The native calls that dropping a resource makes. -/
def calls (bus : Bus) : Resource → List JournalEntry
  | .handle value =>
    value.owner.raw.elim [] fun raw =>
      value.claimed.map (Handle.releaseEntry bus raw) ++ [(Title.handle raw).returnEntry]
  | resource => (resource.title?.map Title.returnEntry).toList

/-- What dropping a resource logs. -/
def lines (bus : Bus) : Resource → Log
  | .context value =>
    (value.owner.raw.map fun raw =>
      .note .debug ⟨.context, "Closed USB context " ++ Text.hex raw⟩).toList
  | .handle value =>
    value.owner.raw.elim [] fun raw =>
      Handle.releaseFailures value.library bus raw value.claimed ++
        [.note .debug ⟨.handle, "Closed device handle " ++ Text.hex raw⟩]
  | .list _ | .device _ | .descriptor _ => []

/-- The world after a resource was dropped, as a function of the world before. -/
def dropped (resource : Resource) (world : World) : World where
  bus :=
    { world.bus.withoutAll resource.title?.toList with
      journal := world.bus.journal ++ resource.calls world.bus }
  log := world.log ++ resource.lines world.bus

theorem drop_of_nothing (resource : Resource) (empty : resource.title? = none)
    (world : World) : resource.drop world = world := by
  cases resource with
  | handle value => exact Handle.drop_empty (Option.map_eq_none_iff.mp empty) world
  | context value | device value | descriptor value =>
    simp only [drop, Context.drop, Device.drop, ConfigDescriptor.drop, Owner.drop, Owner.dispose,
      Option.map_eq_none_iff.mp empty]
  | list value => simp only [drop, DeviceList.drop, Option.map_eq_none_iff.mp empty]

theorem calls_of_kind {resource : Resource} (kind : resource.kind ≠ .handle) (bus : Bus) :
    resource.calls bus = (resource.title?.map Title.returnEntry).toList := by
  cases resource with
  | handle value => contradiction
  | context value | list value | device value | descriptor value => rfl

theorem dropped_of_nothing (resource : Resource) (empty : resource.title? = none)
    (world : World) : resource.dropped world = world := by
  have silent : resource.calls world.bus = [] ∧ resource.lines world.bus = [] := by
    cases resource with
    | context value | handle value => simp [calls, lines, title?, Option.map_eq_none_iff.mp empty]
    | list value | device value | descriptor value => simp [calls, lines, empty]
  simp [dropped, empty, silent, Bus.withoutAll]

end Resource

theorem Handle.drop_eq {handle : Handle} {raw : Address} (owned : handle.owner.raw = some raw)
    (backs : world.bus.Backs returned (.handle raw :: titles)) (distinct : handle.claimed.Nodup) :
    handle.drop world = (Resource.handle handle).dropped world := by
  obtain ⟨opened, found⟩ := backs.handle_open List.mem_cons_self
  have reclaimed := releaseAll_reclaimed handle.library found handle.claimed
  have steady := releaseAll_steady handle.library found handle.claimed
  obtain ⟨journal, log⟩ := releaseAll_journal handle.library found distinct
  have reached : handle.drop world =
      disposal raw (handle.claimed.foldl (releaseOne handle.library raw) world) := by
    simp [drop, close, reset, Owner.reset, Owner.drop, Owner.dispose, Owner.ofRaw, releaseClaimed,
      Address.owned?, owned]
  rw [reached]
  generalize handle.claimed.foldl (releaseOne handle.library raw) world = middle
    at reclaimed steady journal log
  have closed : (disposal raw middle).bus =
      { world.bus.without (.handle raw) with
        journal := middle.bus.journal ++ [(Title.handle raw).returnEntry] } := by
    refine (backs.steady steady).closeHandle_eq.trans ?_
    rw [reclaimed.without]
  have noted : (disposal raw middle).log =
      middle.log ++ [.note .debug ⟨.handle, "Closed device handle " ++ Text.hex raw⟩] := rfl
  rw [log, List.append_assoc] at noted
  rw [journal, List.append_assoc] at closed
  calc
    disposal raw middle = ⟨(disposal raw middle).bus, (disposal raw middle).log⟩ := rfl
    _ = (Resource.handle handle).dropped world := by
      rw [closed, noted]
      simp [Resource.dropped, Resource.calls, Resource.lines, Resource.title?, Bus.withoutAll,
        owned]

/-- Whatever is no handle is dropped by the one call that its title asks for. -/
theorem Resource.drop_by_call {resource : Resource} {title : Title}
    (kind : resource.kind ≠ .handle) (owned : resource.title? = some title) (world : World) :
    resource.drop world =
      ⟨(title.returnCall.perform world.bus).2, world.log ++ resource.lines world.bus⟩ := by
  cases resource with
  | handle value => contradiction
  | context value =>
    obtain ⟨raw, held, rfl⟩ := Option.map_eq_some_iff.mp owned
    simp only [drop, Context.drop, Owner.drop, Owner.dispose, lines, held]
    rfl
  | device value =>
    obtain ⟨raw, held, rfl⟩ := Option.map_eq_some_iff.mp owned
    simp only [drop, Device.drop, Owner.drop, Owner.dispose, lines, held, List.append_nil]
    rfl
  | descriptor value =>
    obtain ⟨raw, held, rfl⟩ := Option.map_eq_some_iff.mp owned
    simp only [drop, ConfigDescriptor.drop, Owner.drop, Owner.dispose, lines, held,
      List.append_nil]
    rfl
  | list value =>
    obtain ⟨array, held, rfl⟩ := Option.map_eq_some_iff.mp owned
    simp only [drop, DeviceList.drop, lines, held, List.append_nil]
    rfl

/-- Dropping a resource gives its title back, and the rest stays as it is. -/
theorem Resource.drop_eq (resource : Resource)
    (backs : world.bus.Backs returned (resource.title?.toList ++ titles))
    (distinct : resource.claimed.Nodup) : resource.drop world = resource.dropped world := by
  cases owned : resource.title? with
  | none => rw [resource.drop_of_nothing owned, resource.dropped_of_nothing owned]
  | some title =>
    rw [owned] at backs
    by_cases kind : resource.kind = .handle
    · cases resource with
      | handle value =>
        obtain ⟨raw, held, rfl⟩ := Option.map_eq_some_iff.mp owned
        exact Handle.drop_eq held backs distinct
      | context value | list value | device value | descriptor value => contradiction
    · rw [drop_by_call kind owned, Bus.Backs.returnCall_eq backs]
      simp [dropped, calls_of_kind kind, owned, Bus.withoutAll]

/-! ## Calls and lines of the others -/

/-- What a release answers depends on nothing but its handle and the injected codes. -/
theorem Handle.releaseCode_persists {before after : Bus} {touched : Option Title} {raw : Address}
    {opened : OpenHandle} (persists : before.Persists touched after)
    (spared : some (.handle raw) ≠ touched) (found : before.handle? raw = some opened) :
    releaseCode after raw = releaseCode before raw := by
  obtain ⟨later, foundLater, same⟩ := persists.handles raw spared opened found
  have claims : later.claimed = opened.claimed := congrArg (fun tenure => tenure.2.2) same
  funext interface
  rw [releaseCode_eq foundLater, releaseCode_eq found, claims]
  simp only [Bus.injectedRelease, Bus.injected, persists.failures, persists.releaseFailures]

theorem Resource.calls_persists {before after : Bus} {touched : Option Title} (resource : Resource)
    (persists : before.Persists touched after)
    (spared : ∀ raw, resource.title? = some (.handle raw) →
      some (.handle raw) ≠ touched ∧ ∃ opened, before.handle? raw = some opened) :
    resource.calls after = resource.calls before ∧
      resource.lines after = resource.lines before := by
  cases resource with
  | handle value =>
    cases owned : value.owner.raw with
    | none => simp [calls, lines, owned]
    | some raw =>
      obtain ⟨apart, opened, found⟩ := spared raw (by simp [title?, owned])
      have codes := Handle.releaseCode_persists persists apart found
      have entries : Handle.releaseEntry after raw = Handle.releaseEntry before raw := by
        funext interface
        rw [Handle.releaseEntry, Handle.releaseEntry, codes]
      simp only [calls, lines, owned, Option.elim_some, Handle.releaseFailures, entries, codes,
        and_self]
  | context value | list value | device value | descriptor value => exact ⟨rfl, rfl⟩

end UsbHost
