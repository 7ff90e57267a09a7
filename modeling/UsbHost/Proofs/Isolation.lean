import UsbHost.Proofs.Bystanders
import UsbHost.Proofs.Claims
import UsbHost.Proofs.Codes
import UsbHost.Proofs.HandleRuns
import UsbHost.Proofs.QueryForms

/-!
# Handles among each other

Handles do not feel what is done through one another, even where they are on the same device. What
a handle was set to last is what it reads, whatever was done to other handles and devices since:
its address is never given to another handle, so that none is taken for it.
-/

set_option autoImplicit false

namespace UsbHost

open Custody (Move Leads Sound)

variable {terms : Terms} {session : Session} {first other name : String} {raw : Address}

/-! ## Steps on one handle -/

/-- The name of the handle that a step is performed on, which includes dropping it and showing
it. -/
def Step.onHandle? : Step → Option String
  | .handle step => step.subject?
  | .drop .handle name | .inspect .handle name _ => some name
  | _ => none

/-- The native handle behind a name. -/
def Session.nativeHandle? (session : Session) (name : String) : Option Address :=
  (session.resources.handle? name).bind fun handle => handle.owner.raw

/-- The one native handle behind a name, and no other. -/
def Session.only (session : Session) (name : String) : Bus.Reach where
  touched raw := session.nativeHandle? name = some raw
  configured raw := session.nativeHandle? name = some raw

theorem Step.replaces_of_onHandle {step : Step} (on : step.onHandle? = some first)
    (apart : other ≠ first) : step.replaces .handle other = false := by
  cases step with
  | handle step =>
    cases step with
    | empty target | adopt target raw | wrap target context systemHandle => contradiction
    | look name | isClaimed name interface | configuration name policy
    | configurationOrDefault name | autoDetach name enable policy | setConfiguration name value =>
      rfl
    | device name target => simp [replaces]
    | claim name interface | unclaim name interface | reset name raw | close name
    | release name =>
      obtain rfl := Option.some.inj on
      exact decide_eq_false fun same => apart (Prod.mk.inj same).2
  | drop kind name =>
    cases kind with
    | handle =>
      obtain rfl := Option.some.inj on
      exact decide_eq_false fun same => apart (Prod.mk.inj same).2
    | context | list | device | descriptor => contradiction
  | inspect kind name pretty => rfl
  | control | context | list | device | descriptor | native | move => contradiction

/-- A step on a handle makes no calls about another one. -/
theorem Session.step_only {step : Step} (on : step.onHandle? = some first) :
    session.Called (session.only first) (session.step step) := by
  cases step with
  | handle step =>
    have named : step.subject? = some first := on
    refine step.called (fun none => ?_) ?_
    · rw [none] at named
      contradiction
    intro name member handle found raw owned
    obtain rfl := Option.some.inj (named.symm.trans member)
    have own : session.nativeHandle? first = some raw := by
      rw [nativeHandle?, found, Option.bind_some, owned]
    exact ⟨own, fun _ => own⟩
  | drop kind name =>
    cases kind with
    | handle =>
      obtain rfl := Option.some.inj on
      refine withSlot_called fun resource found => resource.drop_called ?_ session.world
      intro raw owned
      change session.nativeHandle? name = some raw
      cases resource with
      | handle handle =>
        have own : handle.owner.raw = some raw := by simpa [Resource.title?] using owned
        rw [nativeHandle?, Resources.handle?_of_find? found, Option.bind_some, own]
      | context value | list value | device value | descriptor value =>
        have mismatched := Resources.find?_kind found
        contradiction
    | context | list | device | descriptor => contradiction
  | inspect kind name pretty => exact withSlot_called fun _ _ => answer_called ..
  | control | context | list | device | descriptor | native | move => contradiction

/-- What stands under another name has a native handle of its own. -/
theorem Client.Kept.only_apart {client : Client} {handle : Handle} (kept : client.Kept terms)
    (found : client.session.resources.handle? other = some handle) (apart : other ≠ first)
    (owned : handle.owner.raw = some raw) : client.session.nativeHandle? first ≠ some raw := by
  intro same
  obtain ⟨holder, named, own⟩ := Option.bind_eq_some_iff.mp same
  have inside := Resources.find?_perm kept.named (Resources.handle?_eq_some named)
  have sound : Sound terms ⟨_, .handle holder :: _, _⟩ := kept.sound.shuffle inside
  have left : (client.session.resources.remove .handle first).find? .handle other =
      some (.handle handle) := by
    have different : (ResourceKind.handle, other) ≠ (.handle, first) :=
      fun same => apart (Prod.mk.inj same).2
    exact (Resources.find?_remove different).trans (Resources.handle?_eq_some found)
  have spared := (Custody.InStep.apart sound _ (Resources.mem_of_find? left)).2 raw
  simp [Resource.title?, owned, own] at spared

/-- A step on one handle leaves every other one as it is, together with its native handle. -/
theorem Client.Kept.isolates {client : Client} {handle : Handle} {step : Step}
    (kept : client.Kept terms) (on : step.onHandle? = some first) (apart : other ≠ first)
    (found : client.session.resources.handle? other = some handle) :
    (client.session.step step).2.resources.handle? other = some handle ∧
      ∀ raw, handle.owner.raw = some raw →
        (client.session.step step).2.world.bus.handle? raw =
          client.session.world.bus.handle? raw := by
  have named := Resources.handle?_eq_some found
  constructor
  · exact Resources.handle?_of_find?
      ((client.session.step_bypasses (step.replaces_of_onHandle on apart)).trans named)
  · intro raw owned
    obtain ⟨opened, isOpen⟩ := kept.isOpen named raw owned
    have foreign := kept.only_apart found apart owned
    rw [isOpen]
    exact (Session.step_only on).heeds.spared raw opened foreign foreign isOpen

/-! ## Where handles come from -/

/-- Handles that the client holds in its own hands left their owner once. -/
def Ledger.Strayed (ledger : Ledger) : Prop :=
  ∀ raw, .handle raw ∈ ledger.pending → raw ∈ ledger.released

/-- Where a handle comes from that is alive after some moves. -/
inductive Handle.Ancestry (before after : Custody) (handle : Handle) : Prop where
  | kept {former : Handle} : .handle former ∈ before.owners →
      former.owner.raw = handle.owner.raw → former.library = handle.library →
      Ancestry before after handle
  | fresh : (∀ raw, handle.owner.raw = some raw → before.world.bus.nextAddress ≤ raw) →
      Ancestry before after handle
  | adopted : (∀ raw, handle.owner.raw = some raw → raw ∈ after.ledger.released) →
      Ancestry before after handle

namespace Custody

variable {before after : Custody} {handle : Handle}

/-- What moves keep of the ledger, and of the addresses handed out. -/
structure Ages (before after : Custody) : Prop where
  addresses : before.world.bus.nextAddress ≤ after.world.bus.nextAddress
  released : ∀ raw ∈ before.ledger.released, raw ∈ after.ledger.released
  strayed : before.ledger.Strayed → after.ledger.Strayed

theorem Ages.trans {last : Custody} (first : before.Ages after) (second : after.Ages last) :
    before.Ages last :=
  ⟨Nat.le_trans first.addresses second.addresses,
    fun raw member => second.released raw (first.released raw member),
    fun strayed => second.strayed (first.strayed strayed)⟩

theorem Ages.of_persists (touched : Option Title)
    (persists : before.world.bus.Persists touched after.world.bus)
    (released : ∀ raw ∈ before.ledger.released, raw ∈ after.ledger.released)
    (pending : ∀ raw, .handle raw ∈ after.ledger.pending →
      .handle raw ∈ before.ledger.pending ∨ raw ∈ after.ledger.released) :
    before.Ages after where
  addresses := persists.addresses
  released := released
  strayed := by
    intro strayed raw member
    exact (pending raw member).elim (fun old => released raw (strayed raw old)) id

theorem Move.ages (move : Move terms before after) (sound : Sound terms before) :
    before.Ages after := by
  cases move with
  | shuffle => exact .of_persists none (.refl ..) (fun _ => id) fun _ => .inl
  | observe quiet => exact .of_persists none quiet.persists (fun _ => id) fun _ => .inl
  | attach info =>
    exact .of_persists none (Bus.attach_persists _ info) (fun _ => id) fun _ => .inl
  | arrange => exact ⟨Nat.le_refl _, fun _ => id, id⟩
  | acquire makes =>
    exact .of_persists none makes.acquires.persists (fun _ => id) fun _ => .inl
  | @adopt world resource =>
    refine .of_persists none (.refl ..) (fun _ => id) fun raw member => .inl ?_
    cases owned : resource.title? with
    | none => simpa [owned] using member
    | some taken =>
      rw [owned] at member
      exact List.mem_of_mem_erase member
  | drop => exact .of_persists _ sound.drop_persists (fun _ => id) fun _ => .inl
  | release =>
    refine .of_persists none (.refl ..) (fun _ => List.mem_append_right _) fun raw member => ?_
    rcases List.mem_append.mp member with given | old
    · have title := Option.mem_toList.mp given
      exact .inr (List.mem_append_left _ (by simp [title, Title.handle?]))
    · exact .inl old
  | claim ends => exact .of_persists _ ends.persists (fun _ => id) fun _ => .inl
  | unclaim ends => exact .of_persists _ ends.persists (fun _ => id) fun _ => .inl
  | @giveBack world title =>
    exact .of_persists _ (world.bus.returnCall_persists title) (fun _ => id)
      fun _ member => .inl (List.mem_of_mem_erase member)
  | @returnReference world device =>
    exact .of_persists _ (world.bus.returnCall_persists (.reference device)) (fun _ => id)
      fun _ => .inl

theorem Move.ancestry (move : Move terms before after) (sound : Sound terms before)
    (strayed : before.ledger.Strayed) (alive : .handle handle ∈ after.owners) :
    handle.Ancestry before after := by
  cases move with
  | shuffle perm => exact .kept (perm.mem_iff.mpr alive) rfl rfl
  | observe | attach | arrange => exact .kept alive rfl rfl
  | acquire makes =>
    rcases List.mem_cons.mp alive with same | old
    · subst same
      refine .fresh fun raw owned => ?_
      have acquires := makes.acquires
      rw [Resource.title?, owned] at acquires
      exact Nat.le_of_eq (acquires.fresh_handle sound.backs.orderly).1.symm
    · exact .kept old rfl rfl
  | adopt held =>
    rcases List.mem_cons.mp alive with same | old
    · subst same
      exact .adopted fun raw owned => strayed raw (held _ (by simp [Resource.title?, owned]))
    · exact .kept old rfl rfl
  | drop | release => exact .kept (.tail _ alive) rfl rfl
  | claim ends =>
    rcases List.mem_cons.mp alive with same | old
    · cases same
      cases ends <;> exact .kept List.mem_cons_self rfl rfl
    · exact .kept (.tail _ old) rfl rfl
  | unclaim ends =>
    rcases List.mem_cons.mp alive with same | old
    · cases same
      cases ends <;> exact .kept List.mem_cons_self rfl rfl
    · exact .kept (.tail _ old) rfl rfl
  | giveBack | returnReference => exact .kept alive rfl rfl

theorem Leads.ages (leads : Leads terms before after) (sound : Sound terms before) :
    before.Ages after := by
  induction leads with
  | refl => exact ⟨Nat.le_refl _, fun _ => id, id⟩
  | tail chain move ages => exact ages.trans (move.ages (Leads.sound chain sound))

/-- A handle that is alive was alive before, or is new, or once left its owner. -/
theorem Leads.ancestry (leads : Leads terms before after) (sound : Sound terms before)
    (strayed : before.ledger.Strayed) (alive : .handle handle ∈ after.owners) :
    handle.Ancestry before after := by
  induction leads generalizing handle with
  | refl => exact .kept alive rfl rfl
  | tail chain move ih =>
    have soundMiddle := Leads.sound chain sound
    have ages := Leads.ages chain sound
    cases move.ancestry soundMiddle (ages.strayed strayed) alive with
    | kept aliveMiddle same library =>
      cases ih aliveMiddle with
      | kept aliveBefore sameBefore libraryBefore =>
        exact .kept aliveBefore (sameBefore.trans same) (libraryBefore.trans library)
      | fresh fresh => exact .fresh fun raw owned => fresh raw (same.trans owned)
      | adopted released =>
        exact .adopted fun raw owned =>
          (move.ages soundMiddle).released raw (released raw (same.trans owned))
    | fresh fresh => exact .fresh fun raw owned => Nat.le_trans ages.addresses (fresh raw owned)
    | adopted released => exact .adopted released

end Custody

/-- No two handles have the same native handle. -/
theorem Custody.Sound.same_handle {custody : Custody} {handle holder : Handle}
    (sound : Sound terms custody) (alive : .handle handle ∈ custody.owners)
    (holderAlive : .handle holder ∈ custody.owners) (owned : handle.owner.raw = some raw)
    (holds : holder.owner.raw = some raw) : handle = holder := by
  obtain ⟨before, after, split⟩ := List.append_of_mem holderAlive
  have inside : custody.owners.Perm (.handle holder :: (before ++ after)) :=
    split ▸ List.perm_middle
  rcases List.mem_cons.mp (inside.mem_iff.mp alive) with same | other
  · exact Resource.handle.inj same
  · have apart := (Custody.InStep.apart (sound.shuffle inside) _ other).2 raw
    simp [Resource.title?, owned, holds] at apart

/-! ## What handles were set to -/

/-- The act that sets the handle of a name. -/
abbrev Act.setting (name : String) (value : Int) : Act :=
  .step (.handle (.setConfiguration name value))

/-- The native handle that a step configures, and the value that it is set to, if that succeeds. -/
def Session.configures? (session : Session) : Step → Option (Address × Int)
  | .handle (.setConfiguration name value) =>
    if (session.step (.handle (.setConfiguration name value))).1.result.isOk then
      (session.nativeHandle? name).map (·, value)
    else none
  | _ => none

namespace Client

/-- What an act sets a native handle to. -/
def configures (client : Client) : Act → List (Address × Int)
  | .step step => (client.session.configures? step).toList
  | .giveBack _ | .returnReference _ | .choose _ => []

/-- What native handles are set to while a client acts, oldest first. -/
def settings (client : Client) : List Act → List (Address × Int)
  | [] => []
  | act :: rest => client.configures act ++ (client.act act).settings rest

end Client

/-- The value that a native handle was set to last, which counts as zero if it is negative; zero if
it was never set. -/
def lastSetting (history : List (Address × Int)) (raw : Address) : Int :=
  (history.reverse.lookup raw).elim 0 (max · 0)

theorem lastSetting_own (history : List (Address × Int)) (raw : Address) (value : Int) :
    lastSetting (history ++ [(raw, value)]) raw = max value 0 := by
  simp [lastSetting]

theorem lastSetting_other (history : List (Address × Int)) {raw other : Address} (value : Int)
    (apart : raw ≠ other) :
    lastSetting (history ++ [(other, value)]) raw = lastSetting history raw := by
  have different : (raw == other) = false := beq_false_of_ne apart
  simp [lastSetting, List.lookup_cons, different]

/-- A native handle that is not in the history was never set. -/
theorem lastSetting_fresh {history : List (Address × Int)} {raw : Address}
    (fresh : ∀ entry ∈ history, entry.1 ≠ raw) : lastSetting history raw = 0 := by
  have missing : history.reverse.lookup raw = none := by
    refine List.lookup_eq_none_iff.mpr fun entry member => ?_
    exact bne_iff_ne.mpr (fresh entry (List.mem_reverse.mp member)).symm
  rw [lastSetting, missing]
  rfl

/-- A call that sets a handle answers an injected code, or else sets it. -/
theorem Bus.setConfiguration_cases {bus : Bus} {opened : OpenHandle}
    (found : bus.handle? raw = some opened) (value : Int) :
    (∃ code, bus.injected .setConfiguration = some code ∧
        (bus.setConfiguration raw value).1.code = code ∧
        (bus.setConfiguration raw value).2.handle? raw = some opened) ∨
      (bus.setConfiguration raw value).1.code = 0 ∧
        (bus.setConfiguration raw value).2.handle? raw =
          some { opened with configuration := max value 0 } := by
  unfold setConfiguration checked
  rw [withHandle_found found]
  rcases bus.answering_cases .setConfiguration (some value) (bus.injected .setConfiguration) _
    with ⟨code, injected, same⟩ | ⟨-, same⟩
  · rw [same]
    exact .inl ⟨code, injected, rfl, found⟩
  · rw [same]
    exact .inr ⟨rfl, modifyHandle_found found fun _ => rfl⟩

/-- Setting a handle succeeds and sets it, or is refused and leaves it as it is. -/
theorem Handle.setConfiguration_sets {handle : Handle} {world : World} {opened : OpenHandle}
    (owned : handle.owner.raw = some raw) (found : world.bus.handle? raw = some opened)
    (raises : handle.library.policies.call.raise)
    (negative : ∀ code, world.bus.injected .setConfiguration = some code → code < 0)
    (value : Int) :
    (handle.setConfiguration value).Ends world
      (fun _ after => after.bus.handle? raw = some { opened with configuration := max value 0 })
      (fun _ after => after.bus.handle? raw = some opened) := by
  have concludes : (handle.setConfiguration value).Concludes world
      (handle.library.governs "DeviceHandle::set_configuration" handle.library.policies.call)
      (world.bus.setConfiguration raw value).1.code ()
      (world.bus.setConfiguration raw value).2 := by
    unfold setConfiguration
    rw [requireRaw_bind owned]
    exact (Usb.invoke_concludes ..).bind fun _ => ⟨rfl, rfl⟩
  refine Usb.Ends.imp concludes ?_ ?_
  · rintro _ after ⟨-, same, passes⟩
    rw [same]
    rcases Bus.setConfiguration_cases found value with ⟨code, injected, answered, -⟩ | ⟨-, set⟩
    · exact absurd ⟨answered ▸ negative code injected, raises⟩ passes
    · exact set
  · rintro _ after ⟨-, same, fails, -⟩
    rw [same]
    rcases Bus.setConfiguration_cases found value with ⟨code, -, -, unset⟩ | ⟨done, -⟩
    · exact unset
    · rw [done] at fails
      contradiction

namespace Client

variable {client : Client} {history : List (Address × Int)}

/-- The configurations of handles are those of the history. Left out are handles that left their
owner, and those that do not raise failures. -/
structure Remembers (client : Client) (history : List (Address × Int)) : Prop where
  recent : ∀ entry ∈ history, entry.1 < client.session.world.bus.nextAddress
  strayed : client.ledger.Strayed
  settled : ∀ handle, .handle handle ∈ client.session.owners →
    handle.library.policies.call.raise → ∀ raw, handle.owner.raw = some raw →
      raw ∉ client.ledger.released → ∀ opened,
        client.session.world.bus.handle? raw = some opened →
          opened.configuration = lastSetting history raw

/-- An act that sets nothing leaves what was remembered. -/
theorem Remembers.plain (remembers : client.Remembers history) (kept : client.Kept terms)
    {act : Act} (permits : client.Permits terms act) (plain : act.configures = false) :
    (client.act act).Remembers history := by
  obtain ⟨leads, keptAfter⟩ := act_leads kept act permits
  have ages := Custody.Leads.ages leads kept.sound
  have orderly := kept.sound.backs.orderly
  have heeds : client.session.world.bus.Heeds ⟨fun _ => True, fun _ => False⟩ _ :=
    client.act_heeds act (fun _ => trivial) fun configures => by simp [plain] at configures
  refine ⟨fun entry member => Nat.lt_of_lt_of_le (remembers.recent entry member) heeds.addresses,
    ages.strayed remembers.strayed, ?_⟩
  intro handle alive raises raw owned stayed opened found
  have origin := heeds.origin raw opened found
  cases Custody.Leads.ancestry leads kept.sound remembers.strayed alive with
  | @kept former aliveBefore same library =>
    have ownedBefore := same.trans owned
    obtain ⟨openedBefore, foundBefore⟩ := kept.isOpen_of_alive aliveBefore raw ownedBefore
    have settled := remembers.settled former aliveBefore (library ▸ raises) raw ownedBefore
      (fun left => stayed (ages.released raw left)) openedBefore foundBefore
    cases origin with
    | older found' _ unchanged =>
      obtain rfl := Option.some.inj (found'.symm.trans foundBefore)
      exact (unchanged id).trans settled
    | newer fresh => exact absurd (orderly.handle?_lt foundBefore) (Nat.not_lt.mpr fresh)
  | fresh fresh =>
    have unset : lastSetting history raw = 0 := by
      refine lastSetting_fresh fun entry member same => ?_
      exact Nat.not_lt.mpr (fresh raw owned) (same ▸ remembers.recent entry member)
    cases origin with
    | older found' => exact absurd (orderly.handle?_lt found') (Nat.not_lt.mpr (fresh raw owned))
    | newer _ initial => exact (initial id).trans unset.symm
  | adopted released => exact absurd (released raw owned) stayed

theorem step_setConfiguration {session : Session} {handle : Handle}
    (found : session.resources.handle? name = some handle) (value : Int) :
    session.step (.handle (.setConfiguration name value)) =
      session.perform (handle.setConfiguration value) fun _ session => session.answer .done := by
  simp only [Session.step, HandleStep.perform, Session.withSlot, found]

theorem step_setConfiguration_resources (session : Session) (name : String) (value : Int) :
    (session.step (.handle (.setConfiguration name value))).2.resources = session.resources := by
  cases found : session.resources.handle? name with
  | none => simp only [Session.step, HandleStep.perform, Session.withSlot, found, Session.noSlot]
  | some handle =>
    rw [step_setConfiguration found, Session.perform]
    split <;> rfl

theorem nativeHandle?_of_configures {entry : Address × Int} {value : Int}
    (member : entry ∈ client.configures (.setting name value)) :
    client.session.nativeHandle? name = some entry.1 := by
  unfold configures Session.configures? at member
  dsimp only at member
  split at member
  · obtain ⟨own, native, rfl⟩ := Option.map_eq_some_iff.mp (Option.mem_toList.mp member)
    exact native
  · simp at member

/-- Setting one handle is not remembered of another one. -/
theorem lastSetting_configures (client : Client) (history : List (Address × Int)) (value : Int)
    (apart : client.session.nativeHandle? name ≠ some raw) :
    lastSetting (history ++ client.configures (.setting name value)) raw =
      lastSetting history raw := by
  unfold configures Session.configures?
  dsimp only
  split
  · cases own : client.session.nativeHandle? name with
    | none => simp
    | some other =>
      exact lastSetting_other history value fun same => apart (own.trans (congrArg some same.symm))
  · simp

/-- The handle that was to be set is what it was set to, or what it was if that was refused. -/
theorem Remembers.own (remembers : client.Remembers history) (kept : client.Kept terms)
    (negative : ∀ code, client.session.world.bus.injected .setConfiguration = some code → code < 0)
    {handle : Handle} (found : client.session.resources.handle? name = some handle)
    (raises : handle.library.policies.call.raise) (owned : handle.owner.raw = some raw)
    (stayed : raw ∉ client.ledger.released) (value : Int) {later : OpenHandle}
    (foundLater : (client.act (.setting name value)).session.world.bus.handle?
      raw = some later) :
    later.configuration = lastSetting
      (history ++ client.configures (.setting name value)) raw := by
  have named := Resources.handle?_eq_some found
  obtain ⟨opened, isOpen⟩ := kept.isOpen named raw owned
  have before := remembers.settled handle (Resources.mem_of_find? named) raises raw owned stayed
    opened isOpen
  have native : client.session.nativeHandle? name = some raw := by
    rw [Session.nativeHandle?, found, Option.bind_some, owned]
  have ends := Handle.setConfiguration_sets owned isOpen raises negative value
  have made := step_setConfiguration found value
  unfold configures Session.configures?
  unfold act at foundLater
  dsimp only at foundLater ⊢
  rw [made, Session.perform] at foundLater ⊢
  unfold Usb.Ends at ends
  cases reached : handle.setConfiguration value client.session.world with
  | ok done after =>
    rw [reached] at ends foundLater
    obtain rfl := Option.some.inj (foundLater.symm.trans ends)
    rw [native]
    exact (lastSetting_own history raw value).symm
  | error error after =>
    rw [reached] at ends foundLater
    obtain rfl := Option.some.inj (foundLater.symm.trans ends)
    exact before.trans (congrArg (lastSetting · raw) (List.append_nil _).symm)

/-- A step that sets a handle adds to what is remembered of this handle only. -/
theorem Remembers.setting (remembers : client.Remembers history) (kept : client.Kept terms)
    (negative : ∀ code, client.session.world.bus.injected .setConfiguration = some code → code < 0)
    (name : String) (value : Int) :
    (client.act (.setting name value)).Remembers
      (history ++ client.configures (.setting name value)) := by
  have only : client.session.world.bus.Heeds (client.session.only name)
      (client.act (.setting name value)).session.world.bus := (Session.step_only rfl).heeds
  have sameLedger : (client.act (.setting name value)).ledger = client.ledger :=
    Ledger.after_of_keeps rfl
  refine ⟨fun entry member => ?_, sameLedger ▸ remembers.strayed, ?_⟩
  · refine Nat.lt_of_lt_of_le ?_ only.addresses
    rcases List.mem_append.mp member with old | new
    · exact remembers.recent entry old
    · obtain ⟨holder, named, owned⟩ := Option.bind_eq_some_iff.mp (nativeHandle?_of_configures new)
      obtain ⟨opened, isOpen⟩ := kept.isOpen (Resources.handle?_eq_some named) _ owned
      exact kept.sound.backs.orderly.handle?_lt isOpen
  · intro handle alive raises raw owned stayed opened found
    have sameOwners : (client.act (.setting name value)).session.owners = client.session.owners :=
      congrArg (List.map Prod.snd) (step_setConfiguration_resources client.session name value)
    have aliveBefore : .handle handle ∈ client.session.owners := sameOwners ▸ alive
    rw [sameLedger] at stayed
    by_cases native : client.session.nativeHandle? name = some raw
    · obtain ⟨holder, named, holds⟩ := Option.bind_eq_some_iff.mp native
      obtain rfl := kept.sound.same_handle aliveBefore
        (Resources.mem_of_find? (Resources.handle?_eq_some named)) owned holds
      exact remembers.own kept negative named raises owned stayed value found
    · obtain ⟨before, foundBefore⟩ := kept.isOpen_of_alive aliveBefore raw owned
      obtain rfl := Option.some.inj
        (found.symm.trans (only.spared raw before native native foundBefore))
      rw [lastSetting_configures client history value native]
      exact remembers.settled handle aliveBefore raises raw owned stayed opened foundBefore

/-- Every act that keeps to the rules keeps what is remembered. -/
theorem Remembers.act (remembers : client.Remembers history) (kept : client.Kept terms)
    (arranged : client.session.world.bus.Arranged terms)
    (negative : ∀ code, terms.code code → code < 0) (act : Act)
    (permits : client.Permits terms act) :
    (client.act act).Remembers (history ++ client.configures act) := by
  have nothing (plain : act.configures = false) (none : client.configures act = []) :
      (client.act act).Remembers (history ++ client.configures act) := by
    rw [none, List.append_nil]
    exact remembers.plain kept permits plain
  cases act with
  | step step =>
    cases step with
    | handle step =>
      cases step with
      | setConfiguration name value =>
        have failures (code : Int)
            (injected : client.session.world.bus.injected .setConfiguration = some code) :
            code < 0 :=
          negative code (arranged.injected injected)
        exact remembers.setting kept failures name value
      | empty | adopt | wrap | look | isClaimed | claim | unclaim | configuration
      | configurationOrDefault | autoDetach | device | reset | close | release =>
        exact nothing rfl rfl
    | native step => exact nothing permits.indirect rfl
    | control | context | list | device | descriptor | drop | move | inspect =>
      exact nothing rfl rfl
  | giveBack title | returnReference device | choose library => exact nothing rfl rfl

theorem run_remembers (kept : client.Kept terms)
    (arranged : client.session.world.bus.Arranged terms)
    (negative : ∀ code, terms.code code → code < 0) (remembers : client.Remembers history)
    (acts : List Act) (permitted : client.Permitted terms acts) :
    (client.run acts).Remembers (history ++ client.settings acts) := by
  induction acts generalizing client history with
  | nil =>
    rw [settings, List.append_nil]
    exact remembers
  | cons act rest ih =>
    obtain ⟨leads, keptAfter⟩ := act_leads kept act permitted.1
    have later := ih keptAfter (Custody.Leads.arranged leads kept.sound arranged)
      (remembers.act kept arranged negative act permitted.1) permitted.2
    rw [List.append_assoc] at later
    exact later

theorem fresh_remembers : fresh.Remembers [] where
  recent := List.forall_mem_nil _
  strayed := fun _ member => absurd member List.not_mem_nil
  settled := fun _ alive => absurd alive List.not_mem_nil

end Client

/-- A handle that raises failures reads its configuration, unless a code is injected. -/
theorem Handle.configuration_reads {handle : Handle} {world : World} {opened : OpenHandle}
    (owned : handle.owner.raw = some raw) (found : world.bus.handle? raw = some opened)
    (raises : handle.library.policies.call.raise)
    (negative : ∀ code, world.bus.injected .getConfiguration = some code → code < 0) :
    (∀ value after, handle.configuration world = .ok value after →
      value = opened.configuration) ∧
    (world.bus.injected .getConfiguration = none →
      ∃ after, handle.configuration world = .ok opened.configuration after) := by
  let reply := (world.bus.getConfiguration raw).1
  have concludes : handle.configuration.Concludes world
      (handle.library.governs "DeviceHandle::configuration" handle.library.policies.call)
      reply.code (if reply.code < 0 then 0 else reply.out.getD 0)
      (world.bus.getConfiguration raw).2 := by
    unfold configuration configurationWith
    rw [requireRaw_bind owned]
    exact (Usb.invoke_concludes ..).bind fun _ => ⟨rfl, rfl⟩
  simp only [reply, Bus.getConfiguration_eq found, Bus.readingCode, Bus.readings] at concludes
  cases injected : world.bus.injected .getConfiguration with
  | none =>
    rw [injected] at concludes
    obtain ⟨after, reads, -⟩ := concludes.answers_of_nonneg (Int.le_refl 0)
    refine ⟨fun value last answered => ?_, fun _ => ⟨after, reads⟩⟩
    rw [reads] at answered
    exact (EStateM.Result.ok.inj answered).1.symm
  | some code =>
    rw [injected] at concludes
    obtain ⟨after, refused⟩ := concludes.refuses (negative code injected) raises
    refine ⟨fun value last answered => ?_, fun regular => by contradiction⟩
    rw [refused] at answered
    contradiction

namespace Client

/-- In every reachable state a step on one handle leaves the others as they are, whether it
succeeds or not. Where failures are raised, a handle that never left its owner reads what it was
last set to, if the reading does not fail. -/
theorem run_isolated (acts : List Act) :
    let client := fresh.run acts
    (fresh.Permitted .free acts →
      ∀ step first, step.onHandle? = some first → ∀ other, other ≠ first →
        ∀ handle, client.session.resources.handle? other = some handle →
          (client.session.step step).2.resources.handle? other = some handle ∧
            ∀ raw, handle.owner.raw = some raw →
              (client.session.step step).2.world.bus.handle? raw =
                client.session.world.bus.handle? raw) ∧
    (fresh.Permitted .failing acts →
      ∀ handle, .handle handle ∈ client.session.owners → handle.library.policies.call.raise →
        ∀ raw, handle.owner.raw = some raw → raw ∉ client.ledger.released →
          (∀ value after, handle.configuration client.session.world = .ok value after →
            value = lastSetting (fresh.settings acts) raw) ∧
          (client.session.world.bus.injected .getConfiguration = none →
            ∃ after, handle.configuration client.session.world =
              .ok (lastSetting (fresh.settings acts) raw) after)) := by
  intro client
  constructor
  · intro permitted step first on other apart handle found
    obtain ⟨-, kept⟩ := run_leads (fresh_kept rfl) acts permitted
    exact kept.isolates on apart found
  · intro permitted handle alive raises raw owned stayed
    obtain ⟨-, kept⟩ := run_leads (fresh_kept rfl) acts permitted
    have negative (code : Int) (allowed : Terms.failing.code code) : code < 0 :=
      (Terms.failing_code allowed).2
    have remembers : client.Remembers (fresh.settings acts) :=
      run_remembers (fresh_kept rfl) (run_arranged rfl [] trivial) negative fresh_remembers acts
        permitted
    have arranged : client.session.world.bus.Arranged .failing := run_arranged rfl acts permitted
    obtain ⟨opened, found⟩ := kept.isOpen_of_alive alive raw owned
    rw [← remembers.settled handle alive raises raw owned stayed opened found]
    exact Handle.configuration_reads owned found raises fun code injected =>
      negative code (arranged.injected injected)

/-- Two handles on one device. The first is set, then a further attempt fails; the second is set to
a negative value. -/
def sharedDeviceRun : List Act :=
  [.step (.control (.attach {})), .step (.device (.adopt "device" 4096 none)),
    .step (.device (.openHandle "device" "first")),
    .step (.device (.openHandle "device" "second")), .setting "first" 3, .setting "second" (-1),
    .step (.control (.fail "libusb_set_configuration" (-4))), .setting "first" 5,
    .step (.control .clearFailures), .step (.handle (.claim "first" 0))]

theorem run_isolated_shared :
    let client := fresh.run sharedDeviceRun
    let first : Handle := { library := {}, owner := ⟨some 4112⟩, claimed := [0] }
    let second : Handle := { library := {}, owner := ⟨some 4128⟩ }
    let dropped := (client.session.step (.drop .handle "first")).2
    fresh.Permitted .free sharedDeviceRun ∧ fresh.Permitted .failing sharedDeviceRun ∧
      client.session.resources.handle? "second" = some second ∧
      dropped.resources.handle? "second" = some second ∧
      dropped.world.bus.handle? 4128 = client.session.world.bus.handle? 4128 ∧
      .handle first ∈ client.session.owners ∧
      lastSetting (fresh.settings sharedDeviceRun) 4112 = 3 ∧
      ∃ after, first.configuration client.session.world =
        .ok (lastSetting (fresh.settings sharedDeviceRun) 4112) after := by
  intro client first second dropped
  have free : fresh.Permitted .free sharedDeviceRun := by decide
  have failing : fresh.Permitted .failing sharedDeviceRun := by decide
  have found : client.session.resources.handle? "second" = some second := rfl
  have alive : .handle first ∈ client.session.owners :=
    @Resources.mem_of_find? _ .handle "first" _ rfl
  obtain ⟨isolated, remembered⟩ := run_isolated sharedDeviceRun
  obtain ⟨still, native⟩ :=
    isolated free (.drop .handle "first") "first" rfl "second" (by decide) second found
  obtain ⟨-, reads⟩ := remembered failing first alive rfl 4112 rfl (by decide)
  exact ⟨free, failing, found, still, native 4128 rfl, alive, by decide, reads rfl⟩

end Client

end UsbHost
