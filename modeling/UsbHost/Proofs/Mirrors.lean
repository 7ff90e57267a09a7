import UsbHost.Proofs.Custody
import UsbHost.Proofs.Persistence

/-!
# The claims of one handle

The interfaces that a handle remembers as claimed and those that the bus holds as claimed through
it are two lists, kept apart. A handle mirrors its native handle if what it remembers is claimed on
the bus, and if both lists and the history of successful calls agree as long as the native handle
never left its owner.
-/

set_option autoImplicit false

namespace UsbHost

/-! ## The history of one handle -/

def ClaimEvent.handle : ClaimEvent → Address
  | claimed raw _ => raw
  | released raw _ => raw

theorem ClaimEvent.apply_foreign {event : ClaimEvent} {raw : Address} (foreign : event.handle ≠ raw)
    (claims : List UInt8) : event.apply raw claims = claims := by
  cases event with
  | claimed handle interface =>
    have different : handle ≠ raw := foreign
    simp [apply, different]
  | released handle interface =>
    have different : handle ≠ raw := foreign
    simp [apply, different]

theorem Ledger.claims_append (ledger : Ledger) (event : ClaimEvent) (raw : Address) :
    { ledger with events := ledger.events ++ [event] }.claims raw =
      event.apply raw (ledger.claims raw) := by
  simp [claims, List.foldl_append]

theorem ClaimEvent.foldl_foreign {raw : Address} (events : List ClaimEvent)
    (foreign : ∀ event ∈ events, event.handle ≠ raw) (claims : List UInt8) :
    events.foldl (apply raw) claims = claims := by
  induction events generalizing claims with
  | nil => rfl
  | cons event rest ih =>
    rw [List.foldl_cons, apply_foreign (foreign event List.mem_cons_self)]
    exact ih (fun other member => foreign other (.tail _ member)) claims

/-! ## The invariant -/

/-- What a handle remembers, against what the bus and the history have about its native handle. -/
structure Handle.Mirrors (handle : Handle) (bus : Bus) (ledger : Ledger) (raw : Address)
    (opened : OpenHandle) : Prop where
  found : bus.handle? raw = some opened
  native : ∀ interface ∈ handle.claimed, nativeInterface interface ∈ opened.claimed
  bounded : ∀ interface ∈ handle.claimed,
    nativeInterface interface < bus.interfaceLimit opened.device
  same : raw ∉ ledger.released → opened.claimed = handle.claimed.map nativeInterface ∧
    ledger.claims raw = handle.claimed

structure Custody.InStep (custody : Custody) : Prop where
  failures : ∀ failure ∈ custody.world.bus.failures, failure.2 < 0
  releaseFailures : ∀ failure ∈ custody.world.bus.releaseFailures, failure.2 < 0
  mirrors : ∀ handle, .handle handle ∈ custody.owners → ∀ raw, handle.owner.raw = some raw →
    ∃ opened, handle.Mirrors custody.world.bus custody.ledger raw opened
  strayed : ∀ raw, .handle raw ∈ custody.ledger.pending → raw ∈ custody.ledger.released
  heard : ∀ event ∈ custody.ledger.events, event.handle < custody.world.bus.nextAddress

theorem Bus.injected_neg {bus : Bus} (failures : ∀ failure ∈ bus.failures, failure.2 < 0)
    {function : NativeFunction} {code : Int} (injected : bus.injected function = some code) :
    code < 0 := by
  obtain ⟨before, after, same, -⟩ := List.lookup_eq_some_iff.mp injected
  exact failures (function, code) (by simp [same])

theorem Bus.injectedRelease_neg {bus : Bus} (failures : ∀ failure ∈ bus.failures, failure.2 < 0)
    (releaseFailures : ∀ failure ∈ bus.releaseFailures, failure.2 < 0) {interface code : Int}
    (injected : bus.injectedRelease interface = some code) : code < 0 := by
  rcases Option.or_eq_some_iff.mp injected with special | ⟨-, general⟩
  · obtain ⟨before, after, same, -⟩ := List.lookup_eq_some_iff.mp special
    exact releaseFailures (interface, code) (by simp [same])
  · exact injected_neg failures general

/-! ## Handles that a move does not concern -/

variable {bus later : Bus} {ledger noted : Ledger} {handle : Handle} {raw : Address}
  {opened : OpenHandle} {touched : Option Title}

/-- A handle mirrors its native handle as long as a move is about something else. -/
theorem Handle.Mirrors.outlasts (mirrors : handle.Mirrors bus ledger raw opened)
    (outlasts : bus.Outlasts touched later) (spared : some (.handle raw) ≠ touched)
    (known : bus.Knows opened.device)
    (released : ∀ handle ∈ ledger.released, handle ∈ noted.released)
    (claims : noted.claims raw = ledger.claims raw) :
    ∃ opened, handle.Mirrors later noted raw opened := by
  obtain ⟨kept, found, tenure⟩ := outlasts.handles raw spared opened mirrors.found
  have device : kept.device = opened.device := congrArg (fun tenure => tenure.2.1) tenure
  have same : kept.claimed = opened.claimed := congrArg (fun tenure => tenure.2.2) tenure
  refine ⟨kept, found, ?_, ?_, ?_⟩
  · rw [same]
    exact mirrors.native
  · rw [device, outlasts.interfaceLimit known]
    exact mirrors.bounded
  · intro own
    rw [same, claims]
    exact mirrors.same fun member => own (released raw member)

/-- A handle that claims nothing mirrors a native handle that was handed out before. -/
theorem Handle.Mirrors.strayed (found : bus.handle? raw = some opened)
    (claimed : handle.claimed = []) (released : raw ∈ ledger.released) :
    handle.Mirrors bus ledger raw opened where
  found := found
  native := by simp [claimed]
  bounded := by simp [claimed]
  same := fun own => absurd released own

/-! ## Claiming and releasing -/

theorem Bus.Claims.done {interface code : Int} (claims : bus.Claims opened interface code later)
    (nonneg : 0 ≤ code) (failures : ∀ failure ∈ bus.failures, failure.2 < 0) :
    interface < bus.interfaceLimit opened.device ∧
      ((bus.Untouched later ∧ interface ∈ opened.claimed) ∨
        interface ∉ opened.claimed ∧ ∃ journal, later =
          { bus.modifyHandle opened.id
              (fun opened => { opened with claimed := opened.claimed ++ [interface] }) with
            journal }) := by
  cases claims with
  | refused untouched reason =>
    rcases reason with negative | injected
    · exact absurd nonneg (Int.not_le.mpr negative)
    · exact absurd nonneg (Int.not_le.mpr (Bus.injected_neg failures injected))
  | again untouched member bounded => exact ⟨bounded, .inl ⟨untouched, member⟩⟩
  | claimed fresh bounded => exact ⟨bounded, .inr ⟨fresh, _, rfl⟩⟩

theorem Bus.Releases.done {interface code : Int}
    (releases : bus.Releases opened interface code later) (nonneg : 0 ≤ code)
    (failures : ∀ failure ∈ bus.failures, failure.2 < 0)
    (releaseFailures : ∀ failure ∈ bus.releaseFailures, failure.2 < 0) :
    ∃ journal, later =
      { bus.modifyHandle opened.id
          (fun opened => { opened with claimed := opened.claimed.erase interface }) with
        journal } := by
  cases releases with
  | refused untouched reason =>
    rcases reason with negative | injected
    · exact absurd nonneg (Int.not_le.mpr negative)
    · have negative := Bus.injectedRelease_neg failures releaseFailures injected
      exact absurd nonneg (Int.not_le.mpr negative)
  | released member => exact ⟨_, rfl⟩

/-- A successful claim is remembered by the handle, the bus and the history alike. -/
theorem Handle.Mirrors.claimed {interface : UInt8} {code : Int}
    (mirrors : handle.Mirrors bus ledger raw opened)
    (claims : bus.Claims opened (nativeInterface interface) code later) (nonneg : 0 ≤ code)
    (failures : ∀ failure ∈ bus.failures, failure.2 < 0) (fresh : interface ∉ handle.claimed) :
    ∃ opened, Mirrors { handle with claimed := handle.claimed ++ [interface] } later
      { ledger with events := ledger.events ++ [.claimed raw interface] } raw opened := by
  obtain rfl := Bus.handle?_id mirrors.found
  obtain ⟨inside, changed⟩ := claims.done nonneg failures
  have bounded : ∀ other ∈ handle.claimed ++ [interface],
      nativeInterface other < bus.interfaceLimit opened.device :=
    List.forall_mem_append.mpr ⟨mirrors.bounded, by simpa using inside⟩
  rcases changed with ⟨⟨entry, rfl⟩, member⟩ | ⟨-, journal, rfl⟩
  · refine ⟨opened, mirrors.found, ?_, bounded, fun own => ?_⟩
    · exact List.forall_mem_append.mpr ⟨mirrors.native, by simpa using member⟩
    · rw [(mirrors.same own).1] at member
      exact absurd ((List.mem_map_of_injective nativeInterface_injective).mp member) fresh
  · refine ⟨_, Bus.modifyHandle_found mirrors.found fun _ => rfl, ?_, bounded,
      fun own => ⟨?_, ?_⟩⟩
    · intro other member
      rcases List.mem_append.mp member with old | new
      · exact List.mem_append_left _ (mirrors.native other old)
      · exact List.mem_append_right _ (by rw [List.mem_singleton.mp new]; exact List.mem_cons_self)
    · simp [(mirrors.same own).1]
    · rw [Ledger.claims_append, (mirrors.same own).2]
      simp [ClaimEvent.apply, fresh]

/-- A successful release is forgotten by the handle, the bus and the history alike. -/
theorem Handle.Mirrors.released {interface : UInt8} {code : Int}
    (mirrors : handle.Mirrors bus ledger raw opened) (distinct : handle.claimed.Nodup)
    (releases : bus.Releases opened (nativeInterface interface) code later) (nonneg : 0 ≤ code)
    (failures : ∀ failure ∈ bus.failures, failure.2 < 0)
    (releaseFailures : ∀ failure ∈ bus.releaseFailures, failure.2 < 0) :
    ∃ opened, Mirrors { handle with claimed := handle.claimed.erase interface } later
      { ledger with events := ledger.events ++ [.released raw interface] } raw opened := by
  obtain rfl := Bus.handle?_id mirrors.found
  obtain ⟨journal, rfl⟩ := releases.done nonneg failures releaseFailures
  refine ⟨_, Bus.modifyHandle_found mirrors.found fun _ => rfl, ?_, ?_, fun own => ⟨?_, ?_⟩⟩
  · intro other member
    obtain ⟨different, inside⟩ := distinct.mem_erase_iff.mp member
    exact (List.mem_erase_of_ne (nativeInterface_injective.ne different)).mpr
      (mirrors.native other inside)
  · exact fun other member => mirrors.bounded other (List.mem_of_mem_erase member)
  · rw [List.map_erase nativeInterface_injective, (mirrors.same own).1]
  · rw [Ledger.claims_append, (mirrors.same own).2]
    simp [ClaimEvent.apply]

theorem Handle.ClaimEnds.mirrors {value : Handle} {interface : UInt8} {before after : World}
    (ends : handle.ClaimEnds interface before value after) (owned : handle.owner.raw = some raw)
    (mirrors : handle.Mirrors before.bus ledger raw opened)
    (raises : handle.library.policies.call.raise)
    (failures : ∀ failure ∈ before.bus.failures, failure.2 < 0) :
    value.owner.raw = some raw ∧
      ∃ opened, value.Mirrors after.bus
        { ledger with events := ledger.events ++ [.claimed raw interface] } raw opened := by
  cases ends with
  | already member =>
    refine ⟨owned, opened, mirrors.found, mirrors.native, mirrors.bounded, fun own => ?_⟩
    obtain ⟨same, history⟩ := mirrors.same own
    refine ⟨same, ?_⟩
    rw [Ledger.claims_append, history]
    simp [ClaimEvent.apply, member]
  | asked ownedBy found fresh nonneg claims =>
    obtain rfl := Option.some.inj (owned.symm.trans ownedBy)
    obtain rfl := Option.some.inj (mirrors.found.symm.trans found)
    exact ⟨owned, mirrors.claimed claims (nonneg raises) failures fresh⟩

theorem Handle.ReleaseEnds.mirrors {value : Handle} {interface : UInt8} {before after : World}
    (ends : handle.ReleaseEnds interface before value after) (owned : handle.owner.raw = some raw)
    (mirrors : handle.Mirrors before.bus ledger raw opened) (distinct : handle.claimed.Nodup)
    (raises : handle.library.policies.call.raise)
    (failures : ∀ failure ∈ before.bus.failures, failure.2 < 0)
    (releaseFailures : ∀ failure ∈ before.bus.releaseFailures, failure.2 < 0) :
    value.owner.raw = some raw ∧
      ∃ opened, value.Mirrors after.bus
        { ledger with events := ledger.events ++ [.released raw interface] } raw opened := by
  cases ends with
  | already missing =>
    refine ⟨owned, opened, mirrors.found, mirrors.native, mirrors.bounded, fun own => ?_⟩
    obtain ⟨same, history⟩ := mirrors.same own
    refine ⟨same, ?_⟩
    rw [Ledger.claims_append, history]
    simp [ClaimEvent.apply, List.erase_of_not_mem missing]
  | asked ownedBy found member nonneg releases =>
    obtain rfl := Option.some.inj (owned.symm.trans ownedBy)
    obtain rfl := Option.some.inj (mirrors.found.symm.trans found)
    exact ⟨owned, mirrors.released distinct releases (nonneg raises) failures releaseFailures⟩

end UsbHost
