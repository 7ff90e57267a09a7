import UsbHost.Proofs.ClientMoves
import UsbHost.Proofs.Mirrors

/-!
# Claims

Where failed calls are raised and every injected code is a failure, the claims that handles
remember stay in step with those on the bus. What is left out is a native handle that left its
owner and was adopted again: the new owner remembers only what was claimed since.
-/

set_option autoImplicit false

namespace UsbHost

open Custody (Move Leads Sound)

variable {bus later : Bus} {ledger noted : Ledger} {handle : Handle} {raw : Address}
  {opened : OpenHandle} {touched : Option Title}

/-- A new handle has an address that was never handed out, and claims nothing. -/
theorem Bus.Acquires.fresh_handle (orderly : bus.Orderly)
    (acquires : bus.Acquires later (some (.handle raw))) :
    raw = bus.nextAddress ∧ ∃ opened, later.handle? raw = some opened ∧ opened.claimed = [] := by
  cases acquires with
  | @handle device journal known =>
    have missing : bus.handle? bus.nextAddress = none := by
      refine Keyed.find?_eq_none_iff.mpr fun member => ?_
      exact Nat.lt_irrefl _ (orderly.handles.below _ member)
    refine ⟨rfl, OpenHandle.mk bus.nextAddress device [] 0, ?_, rfl⟩
    rw [handle?] at missing ⊢
    change (bus.handles ++ [_]).find? _ = _
    rw [List.find?_append, missing]
    simp

/-! ## Moves -/

namespace Custody.InStep

variable {terms : Terms} {world next : World} {owners others : List Resource}
  {resource : Resource}

/-- A move that is about `touched` leaves the claims of all other handles in step. -/
theorem carry (sound : Sound terms ⟨world, owners, ledger⟩)
    (inStep : InStep ⟨world, owners, ledger⟩) (persists : world.bus.Persists touched next.bus)
    (kept : ∀ resource ∈ others, resource ∈ owners ∧
      ∀ raw, resource.title? = some (.handle raw) → some (.handle raw) ≠ touched)
    (claims : ∀ raw, some (.handle raw) ≠ touched → noted.claims raw = ledger.claims raw)
    (heard : ∀ event ∈ noted.events, event.handle < next.bus.nextAddress)
    (released : ∀ handle ∈ ledger.released, handle ∈ noted.released)
    (strayed : ∀ raw, .handle raw ∈ noted.pending → raw ∈ noted.released) :
    InStep ⟨next, others, noted⟩ where
  failures := by
    rw [persists.failures]
    exact inStep.failures
  releaseFailures := by
    rw [persists.releaseFailures]
    exact inStep.releaseFailures
  mirrors := by
    intro handle member raw owned
    obtain ⟨inside, apart⟩ := kept _ member
    have spared := apart raw (by simp [Resource.title?, owned])
    obtain ⟨opened, mirrors⟩ := inStep.mirrors handle inside raw owned
    have isOpen := (sound.backs.orderly.handle?_eq_some_iff.mp mirrors.found).1
    exact mirrors.outlasts persists.toOutlasts spared (sound.backs.bound opened isOpen) released
      (claims raw spared)
  strayed := strayed
  heard := heard

theorem heardLater (inStep : InStep ⟨world, owners, ledger⟩)
    (persists : world.bus.Persists touched next.bus) :
    ∀ event ∈ ledger.events, event.handle < next.bus.nextAddress :=
  fun event member => Nat.lt_of_lt_of_le (inStep.heard event member) persists.addresses

theorem steer (sound : Sound terms ⟨world, owners, ledger⟩)
    (inStep : InStep ⟨world, owners, ledger⟩) (persists : world.bus.Persists none next.bus) :
    InStep ⟨next, owners, ledger⟩ :=
  inStep.carry sound persists (fun _ member => ⟨member, nofun⟩) (fun _ _ => rfl)
    (inStep.heardLater persists) (fun _ member => member) inStep.strayed

theorem cons (inStep : InStep ⟨world, owners, ledger⟩)
    (mirrors : ∀ handle, resource = .handle handle → ∀ raw, handle.owner.raw = some raw →
      ∃ opened, handle.Mirrors world.bus ledger raw opened) :
    InStep ⟨world, resource :: owners, ledger⟩ :=
  { inStep with
    mirrors := by
      intro handle member raw owned
      rcases List.mem_cons.mp member with same | old
      · exact mirrors handle same.symm raw owned
      · exact inStep.mirrors handle old raw owned }

/-- No other resource has the handle of the first. -/
theorem apart (sound : Sound terms ⟨world, resource :: owners, ledger⟩) :
    ∀ other ∈ owners, other ∈ resource :: owners ∧
      ∀ raw, other.title? = some (.handle raw) → some (.handle raw) ≠ resource.title? := by
  intro other member
  refine ⟨.tail _ member, fun raw owned same => ?_⟩
  have backs := sound.backs_cons
  rw [← same] at backs
  exact backs.handle_once (mem_titles member owned)

theorem drop (sound : Sound terms ⟨world, resource :: owners, ledger⟩)
    (inStep : InStep ⟨world, resource :: owners, ledger⟩) :
    InStep ⟨resource.drop world, owners, ledger⟩ := by
  have persists := sound.drop_persists
  exact inStep.carry sound persists (apart sound) (fun _ _ => rfl)
    (inStep.heardLater persists) (fun _ member => member) inStep.strayed

theorem release (sound : Sound terms ⟨world, resource :: owners, ledger⟩)
    (inStep : InStep ⟨world, resource :: owners, ledger⟩) :
    InStep ⟨world, owners,
      { ledger with
        pending := resource.title?.toList ++ ledger.pending
        released := (resource.title?.bind Title.handle?).toList ++ ledger.released }⟩ := by
  refine inStep.carry sound (.refl _ _) (apart sound) (fun _ _ => rfl) inStep.heard
    (fun _ member => List.mem_append_right _ member) fun raw member => ?_
  rcases List.mem_append.mp member with owned | pending
  · have title : resource.title? = some (.handle raw) := Option.mem_toList.mp owned
    exact List.mem_append_left _ (by simp [title, Title.handle?])
  · exact List.mem_append_right _ (inStep.strayed raw pending)

theorem acquire {library : Library} (sound : Sound terms ⟨world, owners, ledger⟩)
    (inStep : InStep ⟨world, owners, ledger⟩) (makes : world.Makes library resource next) :
    InStep ⟨next, resource :: owners, ledger⟩ := by
  refine (inStep.steer sound makes.acquires.persists).cons fun handle same raw owned => ?_
  subst same
  have acquires : world.bus.Acquires next.bus (some (.handle raw)) := by
    simpa [Resource.title?, owned] using makes.acquires
  have claimed : handle.claimed = [] := makes.claimed
  obtain ⟨rfl, opened, found, unclaimed⟩ := acquires.fresh_handle sound.backs.orderly
  have unheard : ledger.claims world.bus.nextAddress = [] := by
    refine ClaimEvent.foldl_foreign _ (fun event member => ?_) []
    exact Nat.ne_of_lt (inStep.heard event member)
  exact ⟨opened, found, by simp [claimed], by simp [claimed],
    fun _ => ⟨by simp [unclaimed, claimed], by rw [unheard, claimed]⟩⟩

theorem adopt (sound : Sound terms ⟨world, owners, ledger⟩)
    (inStep : InStep ⟨world, owners, ledger⟩)
    (held : ∀ title ∈ resource.title?, title ∈ ledger.pending) (claimed : resource.claimed = []) :
    InStep ⟨world, resource :: owners,
      { ledger with pending := resource.title?.elim ledger.pending ledger.pending.erase }⟩ := by
  have rest : InStep ⟨world, owners,
      { ledger with pending := resource.title?.elim ledger.pending ledger.pending.erase }⟩ := by
    refine inStep.carry sound (Bus.Persists.refl none _) (fun _ member => ⟨member, nofun⟩)
      (fun _ _ => rfl) inStep.heard (fun _ member => member)
      fun raw member => inStep.strayed raw ?_
    cases owned : resource.title? with
    | none => simpa [owned] using member
    | some title =>
      rw [owned] at member
      exact List.mem_of_mem_erase member
  refine rest.cons fun handle same raw owned => ?_
  subst same
  have pending : .handle raw ∈ ledger.pending := held _ (by simp [Resource.title?, owned])
  obtain ⟨opened, found⟩ := sound.backs.handle_open (List.mem_append_right _ pending)
  exact ⟨opened, .strayed found claimed (inStep.strayed raw pending)⟩

theorem reclaim {value : Handle} {event : ClaimEvent}
    (sound : Sound terms ⟨world, .handle handle :: owners, ledger⟩)
    (inStep : InStep ⟨world, .handle handle :: owners, ledger⟩)
    (owned : handle.owner.raw = some raw) (about : event.handle = raw)
    (persists : world.bus.Persists (Resource.handle handle).title? next.bus)
    (changed : value.owner.raw = some raw ∧
      ∃ opened, value.Mirrors next.bus { ledger with events := ledger.events ++ [event] } raw
        opened) :
    InStep ⟨next, .handle value :: owners,
      { ledger with events := ledger.events ++ [event] }⟩ := by
  obtain ⟨valueOwned, mirrors⟩ := changed
  obtain ⟨opened, before⟩ := inStep.mirrors handle List.mem_cons_self raw owned
  have below : raw < world.bus.nextAddress := by
    obtain ⟨member, rfl⟩ := sound.backs.orderly.handle?_eq_some_iff.mp before.found
    exact sound.backs.orderly.handles.below _ (List.mem_map_of_mem member)
  have rest : InStep ⟨next, owners, { ledger with events := ledger.events ++ [event] }⟩ := by
    refine inStep.carry sound persists (apart sound) (fun other spared => ?_)
      (fun later member => Nat.lt_of_lt_of_le ?_ persists.addresses) (fun _ member => member)
      inStep.strayed
    · rw [Ledger.claims_append]
      refine ClaimEvent.apply_foreign (fun same => spared ?_) _
      simp [← same, about, Resource.title?, owned]
    · rcases List.mem_append.mp member with old | new
      · exact inStep.heard later old
      · rw [List.mem_singleton.mp new, about]
        exact below
  refine rest.cons fun held same other ownedOther => ?_
  cases same
  obtain rfl := Option.some.inj (valueOwned.symm.trans ownedOther)
  exact mirrors

theorem claim {value : Handle} {interface : UInt8}
    (sound : Sound .raising ⟨world, .handle handle :: owners, ledger⟩)
    (inStep : InStep ⟨world, .handle handle :: owners, ledger⟩)
    (ends : handle.ClaimEnds interface world value next) :
    InStep ⟨next, .handle value :: owners,
      { ledger with
        events := ledger.events ++ (handle.owner.raw.map (.claimed · interface)).toList }⟩ := by
  have raises : handle.library.policies.call.raise := sound.libraries _ List.mem_cons_self
  cases owned : handle.owner.raw with
  | none =>
    cases ends with
    | already => simpa using inStep
    | asked ownedBy => exact absurd (owned.symm.trans ownedBy) nofun
  | some raw =>
    obtain ⟨opened, mirrors⟩ := inStep.mirrors handle List.mem_cons_self raw owned
    exact inStep.reclaim sound owned rfl ends.persists
      (ends.mirrors owned mirrors raises inStep.failures)

theorem unclaim {value : Handle} {interface : UInt8}
    (sound : Sound .raising ⟨world, .handle handle :: owners, ledger⟩)
    (inStep : InStep ⟨world, .handle handle :: owners, ledger⟩)
    (ends : handle.ReleaseEnds interface world value next) :
    InStep ⟨next, .handle value :: owners,
      { ledger with
        events := ledger.events ++ (handle.owner.raw.map (.released · interface)).toList }⟩ := by
  have raises : handle.library.policies.call.raise := sound.libraries _ List.mem_cons_self
  have distinct : handle.claimed.Nodup := sound.distinct _ List.mem_cons_self
  cases owned : handle.owner.raw with
  | none =>
    cases ends with
    | already => simpa using inStep
    | asked ownedBy => exact absurd (owned.symm.trans ownedBy) nofun
  | some raw =>
    obtain ⟨opened, mirrors⟩ := inStep.mirrors handle List.mem_cons_self raw owned
    exact inStep.reclaim sound owned rfl ends.persists
      (ends.mirrors owned mirrors distinct raises inStep.failures inStep.releaseFailures)

/-- No resource has a handle that is in the client's hands. -/
theorem apart_pending {title : Title} (sound : Sound terms ⟨world, owners, ledger⟩)
    (held : title ∈ ledger.pending) (member : resource ∈ owners)
    (owned : resource.title? = some (.handle raw)) : some (.handle raw) ≠ some title := by
  intro same
  obtain rfl := Option.some.inj same
  have owner := List.mem_filterMap.mpr ⟨resource, member, owned⟩
  have taken := (List.perm_cons_erase held).append_left (owners.filterMap Resource.title?)
  exact (sound.backs.perm (taken.trans List.perm_middle)).handle_once
    (List.mem_append_left _ owner)

theorem giveBack {title : Title} (sound : Sound terms ⟨world, owners, ledger⟩)
    (inStep : InStep ⟨world, owners, ledger⟩) (held : title ∈ ledger.pending) :
    InStep ⟨{ world with bus := (title.returnCall.perform world.bus).2 }, owners,
      { ledger with pending := ledger.pending.erase title }⟩ := by
  have persists := world.bus.returnCall_persists title
  exact inStep.carry sound persists
    (fun _ member => ⟨member, fun _ owned => apart_pending sound held member owned⟩)
    (fun _ _ => rfl) (inStep.heardLater persists) (fun _ member => member)
    fun raw member => inStep.strayed raw (List.mem_of_mem_erase member)

theorem arrange {failures : List (NativeFunction × Int)} {releaseFailures : List (Int × Int)}
    (inStep : InStep ⟨world, owners, ledger⟩)
    (newFailures : ∀ failure ∈ failures, failure ∈ world.bus.failures ∨ failure.2 < 0)
    (newReleaseFailures : ∀ failure ∈ releaseFailures,
      failure ∈ world.bus.releaseFailures ∨ failure.2 < 0) :
    InStep ⟨{ world with bus := { world.bus with failures, releaseFailures } }, owners,
      ledger⟩ where
  failures := fun failure member =>
    (newFailures failure member).elim (inStep.failures failure) id
  releaseFailures := fun failure member =>
    (newReleaseFailures failure member).elim (inStep.releaseFailures failure) id
  mirrors := by
    intro handle member raw owned
    obtain ⟨opened, mirrors⟩ := inStep.mirrors handle member raw owned
    exact ⟨opened, mirrors.found, mirrors.native, mirrors.bounded, mirrors.same⟩
  strayed := inStep.strayed
  heard := inStep.heard

theorem shuffle (inStep : InStep ⟨world, owners, ledger⟩) (perm : owners.Perm others) :
    InStep ⟨world, others, ledger⟩ :=
  { inStep with
    mirrors := fun handle member => inStep.mirrors handle (perm.mem_iff.mpr member) }

theorem returnReference {device : Address} (sound : Sound terms ⟨world, owners, ledger⟩)
    (inStep : InStep ⟨world, owners, ledger⟩) :
    InStep ⟨{ world with bus := world.bus.unrefDevice device }, owners,
      { ledger with returned := device :: ledger.returned }⟩ := by
  have persists := world.bus.returnCall_persists (.reference device)
  exact inStep.carry sound persists (fun _ member => ⟨member, nofun⟩) (fun _ _ => rfl)
    (inStep.heardLater persists) (fun _ member => member) inStep.strayed

end Custody.InStep

/-- Every move leaves the claims in step, where failed calls are raised and codes are failures. -/
theorem Custody.Move.inStep {custody after : Custody} (move : Move .raising custody after)
    (sound : Sound .raising custody) (inStep : custody.InStep) : after.InStep := by
  cases move with
  | shuffle perm => exact inStep.shuffle perm
  | observe quiet => exact inStep.steer sound quiet.persists
  | attach info => exact inStep.steer sound (Bus.attach_persists _ info)
  | arrange failures releaseFailures =>
    refine inStep.arrange (fun failure member => ?_) fun failure member => ?_
    · simpa [Terms.raising] using failures failure member
    · simpa [Terms.raising] using releaseFailures failure member
  | acquire makes allowed => exact inStep.acquire sound makes
  | adopt held claimed library => exact inStep.adopt sound held claimed
  | drop => exact inStep.drop sound
  | release kind => exact inStep.release sound
  | claim ends => exact inStep.claim sound ends
  | unclaim ends => exact inStep.unclaim sound ends
  | giveBack held => exact inStep.giveBack sound held
  | returnReference known kept => exact inStep.returnReference sound

theorem Custody.Leads.inStep {custody after : Custody} (leads : Leads .raising custody after)
    (sound : Sound .raising custody) (inStep : custody.InStep) : after.InStep := by
  induction leads with
  | refl => exact inStep
  | tail chain move ih => exact move.inStep (Leads.sound chain sound) ih

theorem Client.fresh_inStep : fresh.custody.InStep where
  failures := List.forall_mem_nil _
  releaseFailures := List.forall_mem_nil _
  mirrors := fun _ member => absurd member List.not_mem_nil
  strayed := fun _ member => absurd member List.not_mem_nil
  heard := List.forall_mem_nil _

/-! ## The claims of a client -/

/-- What can be said about the claims of a handle in every reachable state. -/
structure Client.Faithful (client : Client) (handle : Handle) : Prop where
  distinct : handle.claimed.Nodup
  empty : handle.owner.raw = none → handle.claimed = [] ∧
    ∀ interface world, handle.releaseInterface interface world = .ok handle world
  native : ∀ raw, handle.owner.raw = some raw → ∀ interface ∈ handle.claimed,
    Handle.nativeInterface interface ∈ client.session.world.bus.claims raw
  bounded : ∀ raw, handle.owner.raw = some raw → ∃ opened attached,
    client.session.world.bus.handle? raw = some opened ∧
    client.session.world.bus.device? opened.device = some attached ∧
    ∀ interface ∈ handle.claimed, interface < attached.info.interfaces
  same : ∀ raw, handle.owner.raw = some raw → raw ∉ client.ledger.released →
    client.session.world.bus.claims raw = handle.claimed.map Handle.nativeInterface ∧
    handle.claimed = client.ledger.claims raw

theorem Handle.releaseInterface_unclaimed {handle : Handle} (claimed : handle.claimed = [])
    (interface : UInt8) (world : World) :
    handle.releaseInterface interface world = .ok handle world := by
  have missing : handle.isClaimed interface = false := by simp [isClaimed, claimed]
  unfold releaseInterface
  rw [missing]
  rfl

theorem Client.Kept.faithful {client : Client} (kept : client.Kept .raising)
    (inStep : client.custody.InStep) {handle : Handle}
    (alive : .handle handle ∈ client.session.owners) : client.Faithful handle := by
  have unclaimed (none : handle.owner.raw = none) : handle.claimed = [] :=
    kept.sound.unclaimed _ alive (by simp [Resource.title?, none])
  exact
    { distinct := kept.sound.distinct _ alive
      empty := fun none => ⟨unclaimed none,
        Handle.releaseInterface_unclaimed (unclaimed none)⟩
      native := by
        intro raw owned interface member
        obtain ⟨opened, mirrors⟩ := inStep.mirrors handle alive raw owned
        have claims : client.session.world.bus.claims raw = _ := Bus.claims_eq mirrors.found
        rw [claims]
        exact mirrors.native interface member
      bounded := by
        intro raw owned
        obtain ⟨opened, mirrors⟩ := inStep.mirrors handle alive raw owned
        have orderly := kept.sound.backs.orderly
        have known := kept.sound.backs.bound opened
          (orderly.handle?_eq_some_iff.mp mirrors.found).1
        obtain ⟨attached, found⟩ := known.device?
        refine ⟨opened, attached, mirrors.found, found, fun interface member => ?_⟩
        have bounded := mirrors.bounded interface member
        have limit : client.custody.world.bus.interfaceLimit opened.device =
            attached.info.interfaces.toNat := congrArg (Option.elim · 255 _) found
        rw [limit] at bounded
        exact UInt8.lt_iff_toNat_lt.mpr (Int.ofNat_lt.mp bounded)
      same := by
        intro raw owned own
        obtain ⟨opened, mirrors⟩ := inStep.mirrors handle alive raw owned
        have claims : client.session.world.bus.claims raw = _ := Bus.claims_eq mirrors.found
        rw [claims]
        exact ⟨(mirrors.same own).1, (mirrors.same own).2.symm⟩ }

/-- After any run the claims are in step, whatever fails meanwhile. -/
theorem Client.run_faithful (acts : List Act) (permitted : fresh.Permitted .raising acts)
    (handle : Handle) (alive : .handle handle ∈ (fresh.run acts).session.owners) :
    (fresh.run acts).Faithful handle := by
  obtain ⟨leads, kept⟩ := run_leads (fresh_kept rfl) acts permitted
  exact kept.faithful (Leads.inStep leads (fresh_sound _) fresh_inStep) alive

/-- Claims through one handle, of which one is out of range and one cannot be released. -/
def Client.claimingRun : List Act :=
  [.step (.control (.attach { interfaces := 4 })), .step (.context (.start "context" .defaults)),
    .step (.device (.adopt "device" 4096 none)), .step (.device (.openHandle "device" "handle")),
    .step (.handle (.claim "handle" 2)), .step (.handle (.claim "handle" 7)),
    .step (.handle (.claim "handle" 1)), .step (.control (.failReleaseOf 1 (-4))),
    .step (.handle (.unclaim "handle" 1)), .step (.handle (.unclaim "handle" 2)),
    .step (.handle (.claim "handle" 3))]

theorem Client.run_faithful_claiming :
    let handle : Handle := { library := {}, owner := ⟨some 4128⟩, claimed := [1, 3] }
    fresh.Permitted .raising claimingRun ∧
      .handle handle ∈ (fresh.run claimingRun).session.owners ∧
      (fresh.run claimingRun).Faithful handle := by
  intro handle
  have permitted : fresh.Permitted .raising claimingRun := by decide
  have alive : .handle handle ∈ (fresh.run claimingRun).session.owners :=
    @Resources.mem_of_find? _ .handle "handle" _ rfl
  exact ⟨permitted, alive, run_faithful claimingRun permitted handle alive⟩

end UsbHost
