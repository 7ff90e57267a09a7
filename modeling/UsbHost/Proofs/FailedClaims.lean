import UsbHost.Proofs.Fates
import UsbHost.Proofs.Ownership

/-!
# Claims that failed

A call on the claims of a handle that the bus answers with a failure changes nothing on the bus.
What the handle remembers afterwards is a matter of its policies. Where failed calls are raised it
remembers what it did before. Where they are passed over it remembers what it would remember after
a success, so that it is out of step with the bus from then on.
-/

set_option autoImplicit false

namespace UsbHost

open Custody (Move Leads Sound)

variable {bus later : Bus} {world after : World} {handle former : Handle} {raw : Address}
  {opened : OpenHandle} {interface : UInt8}

/-! ## What the bus has of the claims that a handle remembers -/

namespace Handle

/-- If the handle raises failed calls, the bus has all that the handle remembers as claimed. -/
def Confirmed (handle : Handle) (bus : Bus) : Prop :=
  handle.library.policies.call.raise → ∀ raw, handle.owner.raw = some raw →
    ∀ interface ∈ handle.claimed, nativeInterface interface ∈ bus.claims raw

namespace Confirmed

theorem of_tenure (confirmed : handle.Confirmed bus) (isOpen : handle.Open bus)
    (kept : ∀ raw, handle.owner.raw = some raw → ∀ opened, bus.handle? raw = some opened →
      ∃ opened', later.handle? raw = some opened' ∧ opened'.tenure = opened.tenure) :
    handle.Confirmed later := by
  intro raises raw owned interface member
  obtain ⟨opened, found⟩ := isOpen raw owned
  obtain ⟨opened', foundLater, tenure⟩ := kept raw owned opened found
  have same : opened'.claimed = opened.claimed := congrArg (fun tenure => tenure.2.2) tenure
  have before := confirmed raises raw owned interface member
  rw [Bus.claims_eq found] at before
  rwa [Bus.claims_eq foundLater, same]

theorem claimed (confirmed : former.Confirmed world.bus)
    (failures : ∀ failure ∈ world.bus.failures, failure.2 < 0)
    (ends : former.ClaimEnds interface world handle after) : handle.Confirmed after.bus := by
  cases ends with
  | already => exact confirmed
  | @asked raw opened code after owned found fresh nonneg claims =>
    intro raises other ownedOther held member
    obtain rfl := Option.some.inj (owned.symm.trans ownedOther)
    have before : held ∈ former.claimed → nativeInterface held ∈ opened.claimed := by
      rw [← Bus.claims_eq found]
      exact confirmed raises raw owned held
    obtain ⟨-, ⟨untouched, inside⟩ | ⟨-, journal, changed⟩⟩ := claims.done (nonneg raises) failures
    -- A claim of what the bus has as claimed already succeeds as well, and changes nothing there.
    · obtain ⟨entry, same⟩ := untouched
      have still : after.bus.handle? raw = some opened := by
        rw [same]
        exact found
      rw [Bus.claims_eq still]
      rcases List.mem_append.mp member with old | new
      · exact before old
      · rwa [List.mem_singleton.mp new]
    · obtain rfl := Bus.handle?_id found
      have extended : after.bus.handle? opened.id = some
          { opened with claimed := opened.claimed ++ [nativeInterface interface] } := by
        rw [changed]
        exact Bus.modifyHandle_found found fun _ => rfl
      rw [Bus.claims_eq extended]
      rcases List.mem_append.mp member with old | new
      · exact List.mem_append_left _ (before old)
      · rw [List.mem_singleton.mp new]
        exact List.mem_append_right _ List.mem_cons_self

theorem released (confirmed : former.Confirmed world.bus) (distinct : former.claimed.Nodup)
    (failures : ∀ failure ∈ world.bus.failures, failure.2 < 0)
    (releaseFailures : ∀ failure ∈ world.bus.releaseFailures, failure.2 < 0)
    (ends : former.ReleaseEnds interface world handle after) : handle.Confirmed after.bus := by
  cases ends with
  | already => exact confirmed
  | @asked raw opened code after owned found held nonneg releases =>
    intro raises other ownedOther kept member
    obtain rfl := Option.some.inj (owned.symm.trans ownedOther)
    obtain ⟨different, inside⟩ := distinct.mem_erase_iff.mp member
    have before := confirmed raises raw owned kept inside
    rw [Bus.claims_eq found] at before
    obtain ⟨journal, changed⟩ := releases.done (nonneg raises) failures releaseFailures
    obtain rfl := Bus.handle?_id found
    have shortened : after.bus.handle? opened.id = some
        { opened with claimed := opened.claimed.erase (nativeInterface interface) } := by
      rw [changed]
      exact Bus.modifyHandle_found found fun _ => rfl
    rw [Bus.claims_eq shortened]
    exact (List.mem_erase_of_ne (nativeInterface_injective.ne different)).mpr before

/-- Whatever becomes of the handles, they stay confirmed. -/
theorem fate {custody later : Custody} (sound : Sound .failing custody)
    (arranged : custody.world.bus.Arranged .failing)
    (confirmed : ∀ handle, .handle handle ∈ custody.owners → handle.Confirmed custody.world.bus)
    (handle : Handle) (fate : handle.Fate custody later) : handle.Confirmed later.world.bus := by
  have failures : ∀ failure ∈ custody.world.bus.failures, failure.2 < 0 :=
    fun failure member => (Terms.failing_code (arranged.failures failure member)).2
  have releaseFailures : ∀ failure ∈ custody.world.bus.releaseFailures, failure.2 < 0 :=
    fun failure member => (Terms.failing_code (arranged.releaseFailures failure member)).2
  cases fate with
  | kept alive kept =>
    refine (confirmed handle alive).of_tenure (fun raw owned => ?_) kept
    exact sound.backs.handle_open (Custody.mem_titles alive (by simp [Resource.title?, owned]))
  | fresh unclaimed =>
    intro _ raw _ interface member
    rw [unclaimed] at member
    contradiction
  | claimed alive ends => exact (confirmed _ alive).claimed failures ends
  | released alive ends =>
    exact (confirmed _ alive).released (sound.distinct _ alive) failures releaseFailures ends

end Confirmed

end Handle

/-! ## Calls on the claims of a handle -/

inductive ClaimCall where
  | claim (interface : UInt8)
  | unclaim (interface : UInt8)
  deriving DecidableEq, Repr

namespace ClaimCall

def step (call : ClaimCall) (name : String) : Step :=
  match call with
  | claim interface => .handle (.claim name interface)
  | unclaim interface => .handle (.unclaim name interface)

def operation (call : ClaimCall) (handle : Handle) : Usb Handle :=
  match call with
  | claim interface => handle.claimInterface interface
  | unclaim interface => handle.releaseInterface interface

def function : ClaimCall → NativeFunction
  | claim _ => .claimInterface
  | unclaim _ => .releaseInterface

def native (call : ClaimCall) (raw : Address) : Bus → Reply Unit × Bus :=
  match call with
  | claim interface => Bus.claimInterface raw (Handle.nativeInterface interface)
  | unclaim interface => Bus.releaseInterface raw (Handle.nativeInterface interface)

/-- What is claimed after a call that succeeds. -/
def wanted (call : ClaimCall) (claimed : List UInt8) : List UInt8 :=
  match call with
  | claim interface => claimed ++ [interface]
  | unclaim interface => claimed.erase interface

/-- Whether there is something to do, so that the bus is asked. -/
def Due (call : ClaimCall) (claimed : List UInt8) : Prop :=
  match call with
  | claim interface => interface ∉ claimed
  | unclaim interface => interface ∈ claimed

variable {call : ClaimCall} {claimed : List UInt8}

theorem Due.wanted_ne (due : call.Due claimed) : call.wanted claimed ≠ claimed := by
  cases call with
  | claim interface => simp [wanted]
  | unclaim interface => exact fun same => List.erase_eq_self_iff.mp same due

theorem native_coded (call : ClaimCall) (raw : Address) :
    Bus.Coded call.function (call.native raw) := by
  cases call with
  | claim interface => exact Bus.claimInterface_coded ..
  | unclaim interface => exact Bus.releaseInterface_coded ..

theorem native_untouched (found : bus.handle? raw = some opened)
    (negative : (call.native raw bus).1.code < 0) : bus.Untouched (call.native raw bus).2 := by
  cases call with
  | claim interface => exact (Bus.claimInterface_claims found _).untouched negative
  | unclaim interface => exact (Bus.releaseInterface_releases found _).untouched negative

/-- A call that has nothing to do, or nothing to do it with, leaves the world as it is. -/
theorem operation_idle (idle : call.Due handle.claimed → handle.owner.raw = none) :
    (call.operation handle).Ends world (fun _ after => after = world)
      (fun _ after => after = world) := by
  cases call with
  | claim interface =>
    change (handle.claimInterface interface).Ends _ _ _
    unfold Handle.claimInterface
    by_cases claimed : handle.isClaimed interface
    · rw [if_pos claimed]
      exact rfl
    · rw [if_neg claimed, Usb.ends_bind, Handle.requireRaw,
        idle (mt Handle.isClaimed_iff.mpr claimed)]
      exact rfl
  | unclaim interface =>
    change (handle.releaseInterface interface).Ends _ _ _
    unfold Handle.releaseInterface
    by_cases claimed : handle.isClaimed interface
    · rw [if_neg (by simpa using claimed), Usb.ends_bind, Handle.requireRaw,
        idle (Handle.isClaimed_iff.mp claimed)]
      exact rfl
    · rw [if_pos (by simpa using claimed)]
      exact rfl

def site : ClaimCall → String
  | claim _ => "DeviceHandle::claim_interface"
  | unclaim _ => "DeviceHandle::release_interface"

/-- A call that asks the bus ends as if it had succeeded, unless its failure is raised. -/
theorem operation_concludes (owned : handle.owner.raw = some raw) (due : call.Due handle.claimed)
    (world : World) :
    (call.operation handle).Concludes world
      (handle.library.governs call.site handle.library.policies.call)
      (call.native raw world.bus).1.code { handle with claimed := call.wanted handle.claimed }
      (call.native raw world.bus).2 := by
  cases call with
  | claim interface =>
    change (handle.claimInterface interface).Concludes ..
    unfold Handle.claimInterface
    rw [if_neg (mt Handle.isClaimed_iff.mp due), Handle.requireRaw_bind owned]
    exact (Usb.invoke_concludes ..).bind fun _ => ⟨rfl, rfl⟩
  | unclaim interface =>
    have claimed := Handle.isClaimed_iff.mpr due
    change (handle.releaseInterface interface).Concludes ..
    unfold Handle.releaseInterface
    rw [if_neg (by simpa using claimed), Handle.requireRaw_bind owned]
    exact (Usb.invoke_concludes ..).bind fun _ => ⟨rfl, rfl⟩

end ClaimCall

/-! ## Failed calls -/

/-- Whether a native call failed between two worlds. -/
def World.Fails (before after : World) : Prop :=
  ∃ entry ∈ (before.changes after).calls, entry.isFailed

theorem World.changes_calls {calls : List JournalEntry}
    (journal : after.bus.journal = world.bus.journal ++ calls) :
    (world.changes after).calls = calls := by
  rw [changes, journal, List.drop_left]

theorem World.not_fails (still : after = world) : ¬ world.Fails after := by
  rintro ⟨entry, member, -⟩
  rw [still, changes_calls (List.append_nil _).symm] at member
  contradiction

theorem Bus.Coded.fails_iff {function : NativeFunction} {native : Bus → Reply Unit × Bus}
    (coded : Coded function native) (asked : after.bus = (native world.bus).2) :
    world.Fails after ↔ (native world.bus).1.code < 0 := by
  obtain ⟨argument, journal⟩ := coded.journal world.bus
  rw [← asked] at journal
  rw [World.Fails, World.changes_calls journal]
  simp [JournalEntry.isFailed]

namespace Handle

/-- The handle after a failed call on its claims. -/
def afterFailure (handle : Handle) (call : ClaimCall) : Handle :=
  { handle with
    claimed := if handle.library.policies.call.raise then handle.claimed
      else call.wanted handle.claimed }

/-- What a failed call on the claims of the handle under `name` leaves. -/
structure Missed (handle : Handle) (call : ClaimCall) (name : String) (before after : Session) :
    Prop where
  native : before.world.bus.Untouched after.world.bus
  remembered : after.resources.handle? name = some (handle.afterFailure call)
  unchanged : (handle.afterFailure call).claimed = handle.claimed ↔
    handle.library.policies.call.raise

variable {call : ClaimCall} {name : String} {session : Session}

theorem afterFailure_unchanged (due : call.Due handle.claimed) :
    (handle.afterFailure call).claimed = handle.claimed ↔ handle.library.policies.call.raise := by
  unfold afterFailure
  by_cases raises : handle.library.policies.call.raise
  · simp [raises]
  · simp [raises, due.wanted_ne]

theorem step_claimCall (found : session.resources.handle? name = some handle) :
    session.step (call.step name) =
      HandleStep.onClaims session name handle (call.operation handle) := by
  cases call with
  | claim | unclaim =>
    simp [ClaimCall.step, ClaimCall.operation, Session.step, HandleStep.perform, Session.withSlot,
      found]

theorem onClaims_still {operation : Usb Handle}
    (idle : operation.Ends session.world (fun _ after => after = session.world)
      fun _ after => after = session.world) :
    (HandleStep.onClaims session name handle operation).2.world = session.world := by
  unfold HandleStep.onClaims
  cases reached : operation session.world with
  | ok value after => exact idle.of_ok reached
  | error error after => exact idle.of_error reached

/-- A failed call changes nothing on the bus, and the handle only if its failure is passed over. -/
theorem missed (found : session.resources.handle? name = some handle)
    (isOpen : handle.Open session.world.bus)
    (fails : session.world.Fails (session.step (call.step name)).2.world) :
    handle.Missed call name session (session.step (call.step name)).2 := by
  rw [step_claimCall found] at fails ⊢
  -- A call that does not reach the bus cannot have failed there.
  by_cases idle : call.Due handle.claimed → handle.owner.raw = none
  · exact absurd fails (World.not_fails (onClaims_still (ClaimCall.operation_idle idle)))
  obtain ⟨due, empty⟩ := not_forall.mp idle
  obtain ⟨raw, owned⟩ := Option.ne_none_iff_exists'.mp empty
  obtain ⟨opened, inside⟩ := isOpen raw owned
  have concludes := ClaimCall.operation_concludes owned due session.world
  unfold HandleStep.onClaims at fails ⊢
  cases reached : call.operation handle session.world with
  | ok value after =>
    obtain ⟨rfl, asked, passes⟩ := Usb.Ends.of_ok concludes reached
    rw [reached] at fails
    have negative := ((call.native_coded raw).fails_iff asked).mp fails
    have silent : ¬ handle.library.policies.call.raise := fun raises => passes ⟨negative, raises⟩
    refine ⟨?_, ?_, afterFailure_unchanged due⟩
    · change session.world.bus.Untouched after.bus
      rw [asked]
      exact ClaimCall.native_untouched inside negative
    · rw [afterFailure, if_neg silent]
      exact Resources.handle?_put
  | error error after =>
    obtain ⟨-, asked, negative, raises⟩ := Usb.Ends.of_error concludes reached
    refine ⟨?_, ?_, afterFailure_unchanged due⟩
    · change session.world.bus.Untouched after.bus
      rw [asked]
      exact ClaimCall.native_untouched inside negative
    · have loud : handle.library.policies.call.raise := raises
      rw [afterFailure, if_pos loud]
      exact found

/-- A teardown releases exactly the interfaces that the handle remembers. -/
theorem TornDown.releases_iff (torn : handle.TornDown raw world after) :
    releaseEntry world.bus raw interface ∈ (world.changes after).calls ↔
      interface ∈ handle.claimed := by
  rw [World.changes_calls (torn.journal.trans (List.append_assoc ..)), List.mem_append,
    List.mem_map]
  constructor
  · rintro (⟨other, member, same⟩ | closing)
    · have argument := congrArg JournalEntry.argument same
      rwa [nativeInterface_injective (Option.some.inj argument)] at member
    · simp [releaseEntry] at closing
  · exact fun member => .inl ⟨interface, member, rfl⟩

end Handle

namespace Client

theorem run_confirmed (acts : List Act) (permitted : fresh.Permitted .failing acts)
    (alive : .handle handle ∈ (fresh.run acts).session.owners) :
    handle.Confirmed (fresh.run acts).session.world.bus := by
  obtain ⟨leads, -⟩ := run_leads (fresh_kept rfl) acts permitted
  exact Leads.handles (fun sound arranged confirmed => Handle.Confirmed.fate sound arranged confirmed)
    leads (fresh_sound _) ⟨List.forall_mem_nil _, List.forall_mem_nil _⟩
    (fun _ member => absurd member List.not_mem_nil) handle alive

/-- Dropping a handle releases what it remembers and nothing else. -/
theorem Kept.releases_iff {terms : Terms} {client : Client} (kept : client.Kept terms)
    (alive : .handle handle ∈ client.session.owners) (owned : handle.owner.raw = some raw)
    (interface : UInt8) :
    Handle.releaseEntry client.session.world.bus raw interface ∈
        (client.session.world.changes (handle.drop client.session.world)).calls ↔
      interface ∈ handle.claimed := by
  have title : .handle raw ∈ client.custody.titles :=
    Custody.mem_titles alive (by simp [Resource.title?, owned])
  have backs := kept.sound.backs.perm (List.perm_cons_erase title)
  exact (Handle.tornDown_reset owned backs (kept.sound.distinct _ alive) 0).releases_iff

/-- In every reachable state a failed call on the claims of a handle leaves them alone exactly if
its failure is raised, and the handle releases what it remembers when it is dropped. As long as
only failures are injected, the bus has what a handle that raises failures remembers. -/
theorem run_failed_calls (acts : List Act) (permitted : fresh.Permitted .free acts)
    (name : String) (handle : Handle)
    (found : (fresh.run acts).session.resources.handle? name = some handle) :
    let session := (fresh.run acts).session
    (∀ call : ClaimCall,
      let after := (session.step (call.step name)).2
      session.world.Fails after.world →
        handle.Missed call name session after ∧
        ∀ raw, handle.owner.raw = some raw → ∀ interface,
          Handle.releaseEntry after.world.bus raw interface ∈
              (after.world.changes ((handle.afterFailure call).drop after.world)).calls ↔
            interface ∈ (handle.afterFailure call).claimed) ∧
    (fresh.Permitted .failing acts → handle.Confirmed session.world.bus) := by
  intro session
  obtain ⟨-, kept⟩ := run_leads (fresh_kept rfl) acts permitted
  have inside := Resources.handle?_eq_some found
  refine ⟨?_, fun failing => run_confirmed acts failing (Resources.mem_of_find? inside)⟩
  intro call after fails
  have missed := Handle.missed found (Session.Kept.isOpen kept inside) fails
  refine ⟨missed, fun raw owned interface => ?_⟩
  have permits : (fresh.run acts).Permits .free (.step (call.step name)) := by
    cases call with
    | claim | unclaim =>
      exact .of_plain rfl (by simp [ClaimCall.step, Step.namedDevice?]) rfl rfl rfl
  obtain ⟨-, keptAfter⟩ := act_leads kept _ permits
  have alive := Resources.mem_of_find? (Resources.handle?_eq_some missed.remembered)
  exact keptAfter.releases_iff alive owned interface

/-- A handle with one interface claimed, while neither another one can be claimed nor this one be
released. -/
def failedClaimsRun (raise : Bool) : List Act :=
  [.choose { policies := { call := { level := .warn, raise } } },
    .step (.control (.attach { interfaces := 2 })), .step (.device (.adopt "device" 4096 none)),
    .step (.device (.openHandle "device" "handle")), .step (.handle (.claim "handle" 0)),
    .step (.control (.fail "libusb_claim_interface" (-6))),
    .step (.control (.failReleaseOf 0 (-4)))]

theorem run_failed_calls_raised :
    let session := (fresh.run (failedClaimsRun true)).session
    let after := (session.step ((ClaimCall.unclaim 0).step "handle")).2
    let handle : Handle :=
      { library := { policies := { call := { level := .warn, raise := true } } }
        owner := ⟨some 4112⟩
        claimed := [0] }
    fresh.Permitted .free (failedClaimsRun true) ∧
      session.resources.handle? "handle" = some handle ∧ session.world.Fails after.world ∧
      handle.Missed (.unclaim 0) "handle" session after ∧
      handle.Confirmed session.world.bus := by
  intro session after handle
  have permitted : fresh.Permitted .free (failedClaimsRun true) := by decide
  have found : session.resources.handle? "handle" = some handle := rfl
  have fails : session.world.Fails after.world := by
    unfold World.Fails
    decide
  have failed := run_failed_calls (failedClaimsRun true) permitted "handle" handle found
  exact ⟨permitted, found, fails, (failed.1 (.unclaim 0) fails).1, failed.2 (by decide)⟩

/-- Where failures are passed over, the handle comes to remember an interface that the bus never
had as claimed, and forgets one that the bus has. -/
theorem run_claims_out_of_step :
    let before := (fresh.run (failedClaimsRun false)).session
    let middle := (before.step (.handle (.claim "handle" 1))).2
    let after := (middle.step (.handle (.unclaim "handle" 0))).2
    fresh.Permitted .failing (failedClaimsRun false) ∧
      (before.world.changes middle.world).calls.map JournalEntry.returned = [some (-6)] ∧
      (middle.world.changes after.world).calls.map JournalEntry.returned = [some (-4)] ∧
      (before.resources.handle? "handle").map Handle.claimed = some [0] ∧
      (middle.resources.handle? "handle").map Handle.claimed = some [0, 1] ∧
      (after.resources.handle? "handle").map Handle.claimed = some [1] ∧
      middle.world.bus.claims 4112 = [0] ∧ after.world.bus.claims 4112 = [0] := by
  decide

end Client

end UsbHost
