import Mathlib.Logic.Relation
import UsbHost.Proofs.Client
import UsbHost.Proofs.Disposal

/-!
# Custody of the titles

What a client's session amounts to for the bus: the resources that are alive, whatever their
names, and the ledger. A client step is a chain of a few kinds of moves, and each of them keeps the
invariant that the bus backs exactly the titles of the resources and those in the client's hands.
-/

set_option autoImplicit false

namespace UsbHost

/-- The world, the resources alive in it, and the ledger of the client. -/
structure Custody where
  world : World
  owners : List Resource
  ledger : Ledger

namespace Custody

/-- All titles that are out: those of the resources, and those in the client's hands. -/
def titles (custody : Custody) : List Title :=
  custody.owners.filterMap Resource.title? ++ custody.ledger.pending

inductive Move (terms : Terms) : Custody → Custody → Prop where
  | shuffle {world : World} {owners others : List Resource} {ledger : Ledger} :
      owners.Perm others → Move terms ⟨world, owners, ledger⟩ ⟨world, others, ledger⟩
  | observe {before after : World} {owners : List Resource} {ledger : Ledger} :
      before.bus.Quiet after.bus → Move terms ⟨before, owners, ledger⟩ ⟨after, owners, ledger⟩
  | attach {world : World} {owners : List Resource} {ledger : Ledger} (info : DeviceInfo) :
      Move terms ⟨world, owners, ledger⟩
        ⟨{ world with bus := (world.bus.attach info).2 }, owners, ledger⟩
  | arrange {world : World} {owners : List Resource} {ledger : Ledger}
      {failures : List (NativeFunction × Int)} {releaseFailures : List (Int × Int)} :
      (∀ failure ∈ failures, failure ∈ world.bus.failures ∨ terms.code failure.2) →
      (∀ failure ∈ releaseFailures,
        failure ∈ world.bus.releaseFailures ∨ terms.code failure.2) →
      Move terms ⟨world, owners, ledger⟩
        ⟨{ world with bus := { world.bus with failures, releaseFailures } }, owners, ledger⟩
  | acquire {before after : World} {resource : Resource} {library : Library}
      {owners : List Resource} {ledger : Ledger} :
      before.Makes library resource after → terms.library library →
      Move terms ⟨before, owners, ledger⟩ ⟨after, resource :: owners, ledger⟩
  | adopt {world : World} {resource : Resource} {owners : List Resource} {ledger : Ledger} :
      (∀ title ∈ resource.title?, title ∈ ledger.pending) → resource.claimed = [] →
      terms.library resource.library →
      Move terms ⟨world, owners, ledger⟩
        ⟨world, resource :: owners,
          { ledger with pending := resource.title?.elim ledger.pending ledger.pending.erase }⟩
  | drop {world : World} {resource : Resource} {owners : List Resource} {ledger : Ledger} :
      Move terms ⟨world, resource :: owners, ledger⟩ ⟨resource.drop world, owners, ledger⟩
  | release {world : World} {resource : Resource} {owners : List Resource} {ledger : Ledger} :
      resource.kind ≠ .list →
      Move terms ⟨world, resource :: owners, ledger⟩
        ⟨world, owners,
          { ledger with
            pending := resource.title?.toList ++ ledger.pending
            released := (resource.title?.bind Title.handle?).toList ++ ledger.released }⟩
  | claim {before after : World} {handle value : Handle} {interface : UInt8}
      {owners : List Resource} {ledger : Ledger} :
      handle.ClaimEnds interface before value after →
      Move terms ⟨before, .handle handle :: owners, ledger⟩
        ⟨after, .handle value :: owners,
          { ledger with
            events := ledger.events ++ (handle.owner.raw.map (.claimed · interface)).toList }⟩
  | unclaim {before after : World} {handle value : Handle} {interface : UInt8}
      {owners : List Resource} {ledger : Ledger} :
      handle.ReleaseEnds interface before value after →
      Move terms ⟨before, .handle handle :: owners, ledger⟩
        ⟨after, .handle value :: owners,
          { ledger with
            events := ledger.events ++ (handle.owner.raw.map (.released · interface)).toList }⟩
  | giveBack {world : World} {title : Title} {owners : List Resource} {ledger : Ledger} :
      title ∈ ledger.pending →
      Move terms ⟨world, owners, ledger⟩
        ⟨{ world with bus := (title.returnCall.perform world.bus).2 }, owners,
          { ledger with pending := ledger.pending.erase title }⟩
  | returnReference {world : World} {device : Address} {owners : List Resource}
      {ledger : Ledger} :
      world.bus.Knows device → device ∉ ledger.returned →
      Move terms ⟨world, owners, ledger⟩
        ⟨{ world with bus := world.bus.unrefDevice device }, owners,
          { ledger with returned := device :: ledger.returned }⟩

/-- The invariant of a client that keeps to the rules. -/
structure Sound (terms : Terms) (custody : Custody) : Prop where
  backs : custody.world.bus.Backs custody.ledger.returned custody.titles
  noArrays : ∀ title ∈ custody.ledger.pending, title.array? = none
  distinct : ∀ resource ∈ custody.owners, resource.claimed.Nodup
  unclaimed : ∀ resource ∈ custody.owners, resource.title? = none → resource.claimed = []
  libraries : ∀ resource ∈ custody.owners, terms.library resource.library

variable {terms : Terms} {custody after : Custody} {world : World} {resource : Resource}
  {owners : List Resource} {ledger : Ledger}

theorem titles_cons : (Custody.mk world (resource :: owners) ledger).titles =
    resource.title?.toList ++ (Custody.mk world owners ledger).titles := by
  unfold titles
  cases owned : resource.title? <;> simp [owned]

theorem titles_perm {others : List Resource} (perm : owners.Perm others) :
    (Custody.mk world owners ledger).titles.Perm (Custody.mk world others ledger).titles :=
  (perm.filterMap _).append_right _

/-- A title that is put from the client's hands into a resource is still out once. -/
theorem titles_adopt (held : ∀ title ∈ resource.title?, title ∈ ledger.pending) :
    (owners.filterMap Resource.title? ++ ledger.pending).Perm
      (resource.title?.toList ++ (owners.filterMap Resource.title? ++
        resource.title?.elim ledger.pending ledger.pending.erase)) := by
  cases owned : resource.title? with
  | none => exact .refl _
  | some title =>
    have taken := List.perm_cons_erase (held title owned)
    exact (taken.append_left _).trans List.perm_middle

namespace Sound

theorem shuffle {others : List Resource} (sound : Sound terms ⟨world, owners, ledger⟩)
    (perm : owners.Perm others) : Sound terms ⟨world, others, ledger⟩ where
  backs := sound.backs.perm (titles_perm perm)
  noArrays := sound.noArrays
  distinct := fun resource member => sound.distinct resource (perm.mem_iff.mpr member)
  unclaimed := fun resource member => sound.unclaimed resource (perm.mem_iff.mpr member)
  libraries := fun resource member => sound.libraries resource (perm.mem_iff.mpr member)

/-- The bus may change in whatever way still backs the titles. -/
theorem rebased {later : World} (sound : Sound terms ⟨world, owners, ledger⟩)
    (backs : later.bus.Backs ledger.returned (Custody.mk world owners ledger).titles) :
    Sound terms ⟨later, owners, ledger⟩ :=
  { sound with backs }

/-- One more resource, on a bus that backs its title as well. -/
theorem cons {later : World} {noted : Ledger} (sound : Sound terms ⟨world, owners, ledger⟩)
    (backs : later.bus.Backs noted.returned
      (Custody.mk later (resource :: owners) noted).titles)
    (noArrays : ∀ title ∈ noted.pending, title.array? = none)
    (distinct : resource.claimed.Nodup)
    (unclaimed : resource.title? = none → resource.claimed = [])
    (library : terms.library resource.library) :
    Sound terms ⟨later, resource :: owners, noted⟩ where
  backs := backs
  noArrays := noArrays
  distinct := List.forall_mem_cons.mpr ⟨distinct, sound.distinct⟩
  unclaimed := List.forall_mem_cons.mpr ⟨unclaimed, sound.unclaimed⟩
  libraries := List.forall_mem_cons.mpr ⟨library, sound.libraries⟩

/-- One resource less, on a bus that still backs the other titles. -/
theorem tail {later : World} {noted : Ledger}
    (sound : Sound terms ⟨world, resource :: owners, ledger⟩)
    (backs : later.bus.Backs noted.returned (Custody.mk later owners noted).titles)
    (noArrays : ∀ title ∈ noted.pending, title.array? = none) :
    Sound terms ⟨later, owners, noted⟩ where
  backs := backs
  noArrays := noArrays
  distinct := (List.forall_mem_cons.mp sound.distinct).2
  unclaimed := (List.forall_mem_cons.mp sound.unclaimed).2
  libraries := (List.forall_mem_cons.mp sound.libraries).2

theorem backs_cons (sound : Sound terms ⟨world, resource :: owners, ledger⟩) :
    world.bus.Backs ledger.returned
      (resource.title?.toList ++ (Custody.mk world owners ledger).titles) :=
  titles_cons ▸ sound.backs

theorem acquire {library : Library} {later : World}
    (sound : Sound terms ⟨world, owners, ledger⟩) (makes : world.Makes library resource later)
    (allowed : terms.library library) :
    Sound terms ⟨later, resource :: owners, ledger⟩ := by
  have backs : later.bus.Backs ledger.returned
      (Custody.mk later (resource :: owners) ledger).titles := by
    rw [titles_cons]
    exact sound.backs.acquire makes.acquires
  refine sound.cons backs sound.noArrays ?_ (fun _ => makes.claimed) ?_
  · rw [makes.claimed]
    exact List.nodup_nil
  · rw [makes.library]
    exact allowed

theorem adopt (sound : Sound terms ⟨world, owners, ledger⟩)
    (held : ∀ title ∈ resource.title?, title ∈ ledger.pending) (claimed : resource.claimed = [])
    (library : terms.library resource.library) :
    Sound terms ⟨world, resource :: owners,
      { ledger with pending := resource.title?.elim ledger.pending ledger.pending.erase }⟩ := by
  refine sound.cons ?_ ?_ (by simp [claimed]) (fun _ => claimed) library
  · rw [titles_cons]
    exact sound.backs.perm (titles_adopt held)
  · intro title member
    refine sound.noArrays title ?_
    cases owned : resource.title? with
    | none => simpa [owned] using member
    | some taken =>
      rw [owned] at member
      exact List.mem_of_mem_erase member

theorem drop (sound : Sound terms ⟨world, resource :: owners, ledger⟩) :
    Sound terms ⟨resource.drop world, owners, ledger⟩ :=
  sound.tail (resource.drop_backs sound.backs_cons) sound.noArrays

theorem release (sound : Sound terms ⟨world, resource :: owners, ledger⟩)
    (kind : resource.kind ≠ .list) :
    Sound terms ⟨world, owners,
      { ledger with
        pending := resource.title?.toList ++ ledger.pending
        released := (resource.title?.bind Title.handle?).toList ++ ledger.released }⟩ := by
  refine sound.tail (sound.backs_cons.perm ?_) ?_
  · unfold titles
    rw [← List.append_assoc, ← List.append_assoc]
    exact List.perm_append_comm.append_right _
  · intro title member
    rcases List.mem_append.mp member with owned | pending
    · cases resource with
      | list value => exact absurd rfl kind
      | context value | device value | handle value | descriptor value =>
        obtain ⟨raw, -, rfl⟩ := Option.map_eq_some_iff.mp (Option.mem_toList.mp owned)
        rfl
    · exact sound.noArrays title pending

/-- A call on the claims of a handle leaves its title alone. -/
theorem reclaim {handle : Handle} {later : World} {claimed : List UInt8} {raw : Address}
    {noted : List ClaimEvent} (sound : Sound terms ⟨world, .handle handle :: owners, ledger⟩)
    (owned : handle.owner.raw = some raw) (steady : world.bus.Steady later.bus)
    (distinct : claimed.Nodup) :
    Sound terms ⟨later, .handle { handle with claimed } :: owners,
      { ledger with events := noted }⟩ where
  backs := sound.backs.steady steady
  noArrays := sound.noArrays
  distinct := List.forall_mem_cons.mpr ⟨distinct, (List.forall_mem_cons.mp sound.distinct).2⟩
  unclaimed := by
    have empty : (Resource.handle { handle with claimed }).title? ≠ none := by
      simp [Resource.title?, owned]
    exact List.forall_mem_cons.mpr
      ⟨fun none => absurd none empty, (List.forall_mem_cons.mp sound.unclaimed).2⟩
  libraries := List.forall_mem_cons.mpr (List.forall_mem_cons.mp sound.libraries)

theorem noted (sound : Sound terms ⟨world, owners, ledger⟩) (events : List ClaimEvent) :
    Sound terms ⟨world, owners, { ledger with events }⟩ :=
  { sound with }

theorem claim {handle value : Handle} {interface : UInt8} {later : World}
    {noted : List ClaimEvent} (sound : Sound terms ⟨world, .handle handle :: owners, ledger⟩)
    (ends : handle.ClaimEnds interface world value later) :
    Sound terms ⟨later, .handle value :: owners, { ledger with events := noted }⟩ := by
  have distinct : handle.claimed.Nodup := sound.distinct _ List.mem_cons_self
  cases ends with
  | already => exact sound.noted noted
  | asked owned found fresh raises claims =>
    refine sound.reclaim owned claims.steady (List.nodup_append.mpr ⟨distinct, by simp, ?_⟩)
    rintro old member other single rfl
    exact fresh (List.mem_singleton.mp single ▸ member)

theorem unclaim {handle value : Handle} {interface : UInt8} {later : World}
    {noted : List ClaimEvent} (sound : Sound terms ⟨world, .handle handle :: owners, ledger⟩)
    (ends : handle.ReleaseEnds interface world value later) :
    Sound terms ⟨later, .handle value :: owners, { ledger with events := noted }⟩ := by
  have distinct : handle.claimed.Nodup := sound.distinct _ List.mem_cons_self
  cases ends with
  | already => exact sound.noted noted
  | asked owned found member raises releases =>
    exact sound.reclaim owned releases.steady (distinct.erase _)

theorem giveBack {title : Title} (sound : Sound terms ⟨world, owners, ledger⟩)
    (held : title ∈ ledger.pending) :
    Sound terms ⟨{ world with bus := (title.returnCall.perform world.bus).2 }, owners,
      { ledger with pending := ledger.pending.erase title }⟩ := by
  have taken := (List.perm_cons_erase held).append_left (owners.filterMap Resource.title?)
  exact
    { sound with
      backs := (sound.backs.perm (taken.trans List.perm_middle)).giveUp
      noArrays := fun title member => sound.noArrays title (List.mem_of_mem_erase member) }

theorem returnReference {device : Address} (sound : Sound terms ⟨world, owners, ledger⟩)
    (known : world.bus.Knows device) (kept : device ∉ ledger.returned) :
    Sound terms ⟨{ world with bus := world.bus.unrefDevice device }, owners,
      { ledger with returned := device :: ledger.returned }⟩ :=
  { sound with backs := (sound.backs.handOut known kept).unrefDevice }

end Sound

theorem Move.sound (move : Move terms custody after) (sound : Sound terms custody) :
    Sound terms after := by
  cases move with
  | shuffle perm => exact sound.shuffle perm
  | observe quiet => exact sound.rebased (sound.backs.steady quiet.toSteady)
  | attach info => exact sound.rebased (sound.backs.attach info)
  | arrange failures releaseFailures =>
    exact sound.rebased (sound.backs.steady ⟨rfl, rfl, rfl, rfl, rfl, rfl, rfl, rfl⟩)
  | acquire makes allowed => exact sound.acquire makes allowed
  | adopt held claimed library => exact sound.adopt held claimed library
  | drop => exact sound.drop
  | release kind => exact sound.release kind
  | claim ends => exact sound.claim ends
  | unclaim ends => exact sound.unclaim ends
  | giveBack held => exact sound.giveBack held
  | returnReference known kept => exact sound.returnReference known kept

/-- A resource without a title comes out of nowhere. -/
theorem Move.place (empty : resource.title? = none) (claimed : resource.claimed = [])
    (library : terms.library resource.library) :
    Move terms ⟨world, owners, ledger⟩ ⟨world, resource :: owners, ledger⟩ := by
  have adopted : Move terms ⟨world, owners, ledger⟩ ⟨world, resource :: owners,
      { ledger with pending := resource.title?.elim ledger.pending ledger.pending.erase }⟩ :=
    .adopt (by simp [empty]) claimed library
  rw [empty] at adopted
  exact adopted

abbrev Leads (terms : Terms) : Custody → Custody → Prop :=
  Relation.ReflTransGen (Move terms)

theorem Leads.sound (leads : Leads terms custody after) (sound : Sound terms custody) :
    Sound terms after := by
  induction leads with
  | refl => exact sound
  | tail _ move ih => exact move.sound ih

end Custody

/-- The resources of a session, without their names. -/
def Session.owners (session : Session) : List Resource :=
  session.resources.map Prod.snd

/-- What a client's session and ledger amount to. -/
def Session.custody (session : Session) (ledger : Ledger) : Custody where
  world := session.world
  owners := session.owners
  ledger := ledger

def Client.custody (client : Client) : Custody :=
  client.session.custody client.ledger

theorem Client.fresh_sound (terms : Terms) : Custody.Sound terms Client.fresh.custody where
  backs := Bus.backs_nothing
  noArrays := List.forall_mem_nil _
  distinct := List.forall_mem_nil _
  unclaimed := List.forall_mem_nil _
  libraries := List.forall_mem_nil _

end UsbHost
