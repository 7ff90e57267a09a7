import UsbHost.Proofs.ClientMoves

/-!
# Teardown

Dropping, closing and resetting a handle release every interface that the handle remembers, in the
order of the claims, and then close the native handle, whatever the releases answer and whatever
the policies say. Each failed release is logged once, and none of them is raised.
-/

set_option autoImplicit false

namespace UsbHost

variable {bus : Bus} {world : World} {library : Library} {raw : Address} {opened : OpenHandle}

namespace Handle

def releaseCode (bus : Bus) (raw : Address) (interface : UInt8) : Int :=
  (bus.releaseInterface raw (nativeInterface interface)).1.code

def releaseEntry (bus : Bus) (raw : Address) (interface : UInt8) : JournalEntry where
  function := .releaseInterface
  argument := some (nativeInterface interface)
  returned := some (releaseCode bus raw interface)

/-- The event of a release that answered a negative code. -/
def releaseFailure (library : Library) (code : Int) : Event :=
  library.failureEvent library.policies.cleanup "DeviceHandle::reset" "libusb_release_interface"
    (if code < -2147483648 then ErrorKind.other.code else code)

/-- What the releases of the given interfaces log: one event for each negative code. -/
def releaseFailures (library : Library) (bus : Bus) (raw : Address) (interfaces : List UInt8) :
    Log :=
  ((interfaces.map (releaseCode bus raw)).filter (· < 0)).map (releaseFailure library)

theorem releaseCode_eq (found : bus.handle? raw = some opened) (interface : UInt8) :
    releaseCode bus raw interface =
      (bus.injectedRelease (nativeInterface interface)).getD
        (if nativeInterface interface ∈ opened.claimed then 0 else ErrorKind.notFound.code) := by
  unfold releaseCode Bus.releaseInterface
  rw [Bus.withHandle_found found]
  rcases bus.answering_cases .releaseInterface (some (nativeInterface interface))
      (bus.injectedRelease (nativeInterface interface)) _ with ⟨code, injected, same⟩ | ⟨none, same⟩
  · rw [same, injected]
    rfl
  · rw [same, none]
    split <;> rfl

theorem releaseInterface_journal (found : bus.handle? raw = some opened) (interface : UInt8) :
    (bus.releaseInterface raw (nativeInterface interface)).2.journal =
      bus.journal ++ [releaseEntry bus raw interface] := by
  unfold releaseEntry releaseCode Bus.releaseInterface
  rw [Bus.withHandle_found found]
  rcases bus.answering_cases .releaseInterface (some (nativeInterface interface))
      (bus.injectedRelease (nativeInterface interface)) _ with ⟨code, -, same⟩ | ⟨-, same⟩
  · rw [same]
    rfl
  · rw [same]
    split <;> rfl

theorem failureLog_release (library : Library) (code : Int) :
    library.failureLog library.policies.cleanup "DeviceHandle::reset"
        NativeFunction.releaseInterface.name code =
      ([code].filter (· < 0)).map (releaseFailure library) := by
  unfold Library.failureLog failureCode releaseFailure
  by_cases nonneg : 0 ≤ code
  · simp [nonneg, Int.not_lt.mpr nonneg]
  · have negative : [code].filter (· < 0) = [code] := by simp [Int.not_le.mp nonneg]
    rw [if_neg nonneg, negative, List.map_singleton]
    split <;> rfl

theorem releaseFailures_cons (library : Library) (bus : Bus) (raw : Address) (interface : UInt8)
    (rest : List UInt8) :
    releaseFailures library bus raw (interface :: rest) =
      ([releaseCode bus raw interface].filter (· < 0)).map (releaseFailure library) ++
        releaseFailures library bus raw rest := by
  unfold releaseFailures
  rw [List.map_cons]
  by_cases negative : releaseCode bus raw interface < 0 <;> simp [negative]

/-- A release has no bearing on what the release of another interface answers. -/
theorem releaseCode_later {later : Bus} {interface other : UInt8} {code : Int}
    (found : bus.handle? raw = some opened)
    (releases : bus.Releases opened (nativeInterface interface) code later)
    (different : other ≠ interface) : releaseCode later raw other = releaseCode bus raw other := by
  rw [releaseCode_eq found]
  obtain rfl := Bus.handle?_id found
  cases releases with
  | refused untouched =>
    obtain ⟨entry, rfl⟩ := untouched
    have still : ({ bus with journal := bus.journal ++ [entry] } : Bus).handle? opened.id =
        some opened := found
    exact releaseCode_eq still other
  | @released journal member =>
    have changed : ({ bus.modifyHandle opened.id (fun opened =>
          { opened with claimed := opened.claimed.erase (nativeInterface interface) }) with
        journal } : Bus).handle? opened.id =
        some { opened with claimed := opened.claimed.erase (nativeInterface interface) } :=
      Bus.modifyHandle_found found fun _ => rfl
    have kept : nativeInterface other ∈ opened.claimed.erase (nativeInterface interface) ↔
        nativeInterface other ∈ opened.claimed :=
      List.mem_erase_of_ne (nativeInterface_injective.ne different)
    rw [releaseCode_eq changed]
    simp only [kept]
    rfl

theorem releaseAll_journal {interfaces : List UInt8} (library : Library)
    (found : world.bus.handle? raw = some opened) (distinct : interfaces.Nodup) :
    (interfaces.foldl (releaseOne library raw) world).bus.journal =
        world.bus.journal ++ interfaces.map (releaseEntry world.bus raw) ∧
      (interfaces.foldl (releaseOne library raw) world).log =
        world.log ++ releaseFailures library world.bus raw interfaces := by
  induction interfaces generalizing world opened with
  | nil => simp [releaseFailures]
  | cons interface rest ih =>
    obtain ⟨fresh, distinctRest⟩ := List.nodup_cons.mp distinct
    obtain ⟨later, foundLater, -⟩ := (releaseOne_steady library found interface).handle? found
    obtain ⟨journal, log⟩ := ih foundLater distinctRest
    have codes : ∀ other ∈ rest,
        releaseCode (releaseOne library raw world interface).bus raw other =
          releaseCode world.bus raw other := by
      intro other member
      refine releaseCode_later found (Bus.releaseInterface_releases found _) ?_
      rintro rfl
      exact fresh member
    have entries : rest.map (releaseEntry (releaseOne library raw world interface).bus raw) =
        rest.map (releaseEntry world.bus raw) :=
      List.map_congr_left fun other member => by rw [releaseEntry, codes other member, releaseEntry]
    have failures : releaseFailures library (releaseOne library raw world interface).bus raw rest =
        releaseFailures library world.bus raw rest := by
      rw [releaseFailures, List.map_congr_left codes, releaseFailures]
    constructor
    · calc
        _ = (releaseOne library raw world interface).bus.journal ++
              rest.map (releaseEntry (releaseOne library raw world interface).bus raw) := journal
        _ = (world.bus.journal ++ [releaseEntry world.bus raw interface]) ++
              rest.map (releaseEntry world.bus raw) := by
            rw [entries]
            exact congrArg (· ++ _) (releaseInterface_journal found interface)
        _ = _ := by simp
    · calc
        _ = (releaseOne library raw world interface).log ++
              releaseFailures library (releaseOne library raw world interface).bus raw rest := log
        _ = (world.log ++ ([releaseCode world.bus raw interface].filter (· < 0)).map
              (releaseFailure library)) ++ releaseFailures library world.bus raw rest := by
            rw [failures]
            exact congrArg (world.log ++ · ++ _) (failureLog_release library _)
        _ = _ := by rw [releaseFailures_cons, List.append_assoc]

/-- What a teardown of a handle that owns `raw` does to the world. -/
structure TornDown (handle : Handle) (raw : Address) (before after : World) : Prop where
  journal : after.bus.journal = before.bus.journal ++
    handle.claimed.map (releaseEntry before.bus raw) ++ [{ function := .closeHandle }]
  log : after.log = before.log ++
    releaseFailures handle.library before.bus raw handle.claimed ++
    [.note .debug ⟨.handle, "Closed device handle " ++ Text.hex raw⟩]
  closed : after.bus.handle? raw = none
  reference : ∃ opened, before.bus.handle? raw = some opened ∧
    after.bus.references opened.device + 1 = before.bus.references opened.device ∧
    ∀ other, other ≠ opened.device → after.bus.references other = before.bus.references other
  misuse : after.bus.misuse = before.bus.misuse

end Handle

namespace Bus

variable {returned : List Address} {titles : List Title}

theorem giveBack_journal (bus : Bus) (function : NativeFunction) (device : Address) :
    (bus.giveBack function device).journal = bus.journal := by
  unfold giveBack
  split
  · rfl
  · split <;> rfl

theorem giveBack_handles (bus : Bus) (function : NativeFunction) (device : Address) :
    (bus.giveBack function device).handles = bus.handles := by
  unfold giveBack
  split
  · rfl
  · split <;> rfl

theorem closeHandle_journal (found : bus.handle? raw = some opened) :
    (bus.closeHandle raw).journal = bus.journal ++ [{ function := .closeHandle }] := by
  have recorded : (bus.record .closeHandle).handle? raw = some opened := found
  unfold closeHandle
  dsimp only
  rw [recorded]
  exact giveBack_journal ..

theorem closeHandle_closed (found : bus.handle? raw = some opened) :
    (bus.closeHandle raw).handle? raw = none := by
  have recorded : (bus.record .closeHandle).handle? raw = some opened := found
  unfold closeHandle
  dsimp only
  rw [recorded]
  dsimp only
  rw [handle?, giveBack_handles]
  simp

theorem modifyReferences_device? (bus : Bus) (device other : Address) (change : Nat → Nat) :
    (bus.modifyReferences device change).device? other =
      (bus.device? other).map fun attached =>
        if attached.id = device then { attached with references := change attached.references }
        else attached := by
  refine Keyed.find?_update bus.devices ?_
  intro attached
  rfl

/-- Giving a reference back takes one from its device and none from the others. -/
theorem Backs.giveBack_references {device : Address} (function : NativeFunction)
    (backs : bus.Backs returned (.reference device :: titles)) :
    (bus.giveBack function device).references device + 1 = bus.references device ∧
      ∀ other, other ≠ device →
        (bus.giveBack function device).references other = bus.references other := by
  rw [backs.giveBack_eq List.mem_cons_self]
  obtain ⟨attached, found⟩ := (backs.reference_known List.mem_cons_self).device?
  obtain ⟨inside, same⟩ := backs.orderly.device?_eq_some_iff.mp found
  have held : 0 < attached.references := by
    have counted : 0 < (Title.reference device :: titles).countP (Title.holds attached.id) :=
      List.countP_pos_iff.mpr ⟨_, List.mem_cons_self, by simp [same]⟩
    have shares := backs.references attached inside
    omega
  refine ⟨?_, fun other different => ?_⟩
  · simp [Bus.references, modifyReferences_device?, found, same]
    omega
  · cases foundOther : bus.device? other with
    | none => simp [Bus.references, modifyReferences_device?, foundOther]
    | some one =>
      have id := (backs.orderly.device?_eq_some_iff.mp foundOther).2
      simp [Bus.references, modifyReferences_device?, foundOther, id, different]

theorem Backs.closeHandle_references (backs : bus.Backs returned (.handle raw :: titles))
    (found : bus.handle? raw = some opened) :
    (bus.closeHandle raw).references opened.device + 1 = bus.references opened.device ∧
      ∀ other, other ≠ opened.device →
        (bus.closeHandle raw).references other = bus.references other := by
  have recorded : (bus.record .closeHandle).handle? raw = some opened := found
  unfold Bus.closeHandle
  dsimp only
  rw [recorded]
  exact ((backs.unseatHandle found).journal _).giveBack_references _

end Bus

/-! ## A whole teardown -/

namespace Handle

variable {handle : Handle} {returned : List Address} {titles : List Title}

/-- Resetting a handle tears it down, whatever it takes over. -/
theorem tornDown_reset (owned : handle.owner.raw = some raw)
    (backs : world.bus.Backs returned (.handle raw :: titles)) (distinct : handle.claimed.Nodup)
    (next : Address) : handle.TornDown raw world (handle.reset next world).2 := by
  obtain ⟨opened, found⟩ := backs.handle_open List.mem_cons_self
  have steady := releaseAll_steady handle.library found handle.claimed
  obtain ⟨later, foundLater, seat⟩ := steady.handle? found
  obtain ⟨journal, log⟩ := releaseAll_journal handle.library found distinct
  have reached : (handle.reset next world).2 =
      disposal raw (handle.claimed.foldl (releaseOne handle.library raw) world) := by
    simp [reset, Owner.reset, Owner.dispose, releaseClaimed, owned]
  rw [reached]
  generalize handle.claimed.foldl (releaseOne handle.library raw) world = middle
    at steady foundLater journal log
  have backsLater := backs.steady steady
  have device : later.device = opened.device := congrArg Prod.snd seat
  obtain ⟨one, others⟩ := backsLater.closeHandle_references foundLater
  have same (other : Address) : middle.bus.references other = world.bus.references other := by
    rw [Bus.references, Bus.device?, steady.devices]
    rfl
  exact
    { journal := by
        rw [← journal]
        exact Bus.closeHandle_journal foundLater
      log := congrArg (· ++ _) log
      closed := Bus.closeHandle_closed foundLater
      reference := by
        rw [device, same] at one
        refine ⟨opened, found, one, fun other different => ?_⟩
        rw [← same]
        exact others other (by rwa [device])
      misuse := backsLater.closeHandle.misuse.trans backs.misuse.symm }

theorem drop_empty (empty : handle.owner.raw = none) (world : World) :
    handle.drop world = world := by
  simp [drop, close, reset, Owner.reset, Owner.drop, Owner.dispose, releaseClaimed, empty,
    Owner.ofRaw, Address.owned?]

theorem close_empty (empty : handle.owner.raw = none) (world : World) :
    (handle.close world).2 = world := by
  simp [close, reset, Owner.reset, Owner.dispose, releaseClaimed, empty]

end Handle

/-- In every reachable state a handle is torn down in full, in order and once, by whichever of the
three operations; and a handle that owns nothing is torn down for nothing. -/
theorem Client.run_teardown (acts : List Act) (permitted : fresh.Permitted .free acts)
    (handle : Handle) (alive : .handle handle ∈ (fresh.run acts).session.owners) :
    let world := (fresh.run acts).session.world
    (∀ raw, handle.owner.raw = some raw → ∀ next : Address,
      handle.TornDown raw world (handle.drop world) ∧
      handle.TornDown raw world (handle.close world).2 ∧
      handle.TornDown raw world (handle.reset next world).2 ∧
      (handle.close world).1 = { handle with owner := .empty, claimed := [] } ∧
      (handle.reset next world).1 =
        { handle with owner := .ofRaw next.owned?, claimed := [] }) ∧
    (handle.owner.raw = none → handle.drop world = world ∧ (handle.close world).2 = world) ∧
    (handle.close world).1.close (handle.close world).2 = handle.close world ∧
    (handle.close world).1.drop (handle.close world).2 = (handle.close world).2 := by
  obtain ⟨-, kept⟩ := run_leads (fresh_kept rfl) acts permitted
  refine ⟨fun raw owned next => ?_, fun empty => ?_, rfl, rfl⟩
  · have title : (Resource.handle handle).title? = some (.handle raw) := by
      simp [Resource.title?, owned]
    have out : .handle raw ∈ (fresh.run acts).custody.titles := Custody.mem_titles alive title
    have backs := kept.sound.backs.perm (List.perm_cons_erase out)
    have distinct : handle.claimed.Nodup := kept.sound.distinct _ alive
    have torn := Handle.tornDown_reset owned backs distinct
    exact ⟨torn next, torn 0, torn next, rfl, rfl⟩
  · exact ⟨Handle.drop_empty empty _, Handle.close_empty empty _⟩

/-- A handle with three claims, the second of which cannot be released. -/
def Client.claimedRun : List Act :=
  [.step (.control (.attach { interfaces := 4 })), .step (.device (.adopt "device" 4096 none)),
    .step (.device (.openHandle "device" "handle")), .step (.handle (.claim "handle" 1)),
    .step (.handle (.claim "handle" 2)), .step (.handle (.claim "handle" 3)),
    .step (.control (.failReleaseOf 2 (-4)))]

theorem Client.run_teardown_claimed :
    let handle : Handle := { library := {}, owner := ⟨some 4112⟩, claimed := [1, 2, 3] }
    let world := (fresh.run claimedRun).session.world
    fresh.Permitted .free claimedRun ∧
      .handle handle ∈ (fresh.run claimedRun).session.owners ∧
      handle.TornDown 4112 world (handle.drop world) := by
  intro handle world
  have permitted : fresh.Permitted .free claimedRun := by decide
  have alive : .handle handle ∈ (fresh.run claimedRun).session.owners :=
    @Resources.mem_of_find? _ .handle "handle" _ rfl
  have torn := run_teardown claimedRun permitted handle alive
  exact ⟨permitted, alive, (torn.1 4112 rfl 0).1⟩

end UsbHost
