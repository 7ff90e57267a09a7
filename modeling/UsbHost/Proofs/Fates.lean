import UsbHost.Proofs.Claims
import UsbHost.Proofs.Codes

/-!
# What becomes of a handle

A move of a client leaves a handle as it is, together with its native handle, unless the move makes
the handle or is a call on its claims. So what is to be proved of the handles of every reachable
state need only be proved of these.
-/

set_option autoImplicit false

namespace UsbHost

open Custody (Move Leads Sound)

/-- What a move can have done to a handle that is alive after it. -/
inductive Handle.Fate (before after : Custody) (handle : Handle) : Prop where
  | kept : .handle handle ∈ before.owners →
      (∀ raw, handle.owner.raw = some raw → ∀ opened, before.world.bus.handle? raw = some opened →
        ∃ later, after.world.bus.handle? raw = some later ∧ later.tenure = opened.tenure) →
      Fate before after handle
  | fresh : handle.claimed = [] → Fate before after handle
  | claimed {former : Handle} {interface : UInt8} : .handle former ∈ before.owners →
      former.ClaimEnds interface before.world handle after.world → Fate before after handle
  | released {former : Handle} {interface : UInt8} : .handle former ∈ before.owners →
      former.ReleaseEnds interface before.world handle after.world → Fate before after handle

namespace Handle.Fate

variable {terms : Terms} {handle former : Handle} {interface : UInt8}
  {before after : Custody} {world next : World} {resource : Resource} {owners : List Resource}
  {ledger noted : Ledger}

theorem spared (touched : Option Title) (member : .handle handle ∈ before.owners)
    (persists : before.world.bus.Persists touched after.world.bus)
    (apart : ∀ raw, handle.owner.raw = some raw → some (.handle raw) ≠ touched) :
    handle.Fate before after :=
  .kept member fun raw owned => persists.handles raw (apart raw owned)

/-- A move that is about one resource keeps the handles of the others. -/
theorem beside (sound : Sound terms ⟨world, resource :: owners, ledger⟩)
    (persists : world.bus.Persists resource.title? next.bus)
    {others : List Resource} (member : .handle handle ∈ owners) :
    handle.Fate ⟨world, resource :: owners, ledger⟩ ⟨next, others, noted⟩ := by
  obtain ⟨inside, apart⟩ := Custody.InStep.apart sound _ member
  exact .spared _ inside persists fun raw owned => apart raw (by simp [Resource.title?, owned])

end Handle.Fate

/-- Every handle that is alive after a move met one of the four fates. -/
theorem Custody.Move.fate {terms : Terms} {before after : Custody}
    (move : Move terms before after) (sound : Sound terms before) {handle : Handle}
    (alive : .handle handle ∈ after.owners) : handle.Fate before after := by
  cases move with
  | shuffle perm => exact .spared none (perm.mem_iff.mpr alive) (.refl _ _) fun _ _ => nofun
  | observe quiet => exact .spared none alive quiet.persists fun _ _ => nofun
  | attach info =>
    exact .spared none alive (Bus.attach_persists _ info) fun _ _ => nofun
  | arrange => exact .kept alive fun _ _ opened found => ⟨opened, found, rfl⟩
  | acquire makes =>
    rcases List.mem_cons.mp alive with same | old
    · subst same
      exact .fresh makes.claimed
    · exact .spared none old makes.acquires.persists fun _ _ => nofun
  | adopt held claimed =>
    rcases List.mem_cons.mp alive with same | old
    · subst same
      exact .fresh claimed
    · exact .spared none old (.refl _ _) fun _ _ => nofun
  | drop => exact .beside sound sound.drop_persists alive
  | release => exact .spared none (.tail _ alive) (.refl _ _) fun _ _ => nofun
  | claim ends =>
    rcases List.mem_cons.mp alive with same | old
    · cases same
      exact .claimed List.mem_cons_self ends
    · exact .beside sound ends.persists old
  | unclaim ends =>
    rcases List.mem_cons.mp alive with same | old
    · cases same
      exact .released List.mem_cons_self ends
    · exact .beside sound ends.persists old
  | @giveBack world title _ _ held =>
    refine .spared _ alive (world.bus.returnCall_persists title) fun raw owned => ?_
    exact Custody.InStep.apart_pending sound held alive (by simp [Resource.title?, owned])
  | @returnReference world device =>
    refine .spared _ alive (world.bus.returnCall_persists (.reference device)) fun raw _ => ?_
    simp

/-- What holds of every handle with nothing claimed, and survives every fate, holds of every handle
in every reachable state. -/
theorem Custody.Leads.handles {terms : Terms} {before after : Custody}
    {holds : Custody → Handle → Prop}
    (step : ∀ {custody later : Custody}, Sound terms custody → custody.world.bus.Arranged terms →
      (∀ handle, .handle handle ∈ custody.owners → holds custody handle) →
      ∀ handle, handle.Fate custody later → holds later handle)
    (leads : Leads terms before after) (sound : Sound terms before)
    (arranged : before.world.bus.Arranged terms)
    (held : ∀ handle, .handle handle ∈ before.owners → holds before handle) :
    ∀ handle, .handle handle ∈ after.owners → holds after handle := by
  induction leads with
  | refl => exact held
  | tail chain move ih =>
    -- The chain so far, and not the step, keeps the custody sound and the codes as arranged.
    have soundMiddle := Leads.sound chain sound
    intro handle alive
    exact step soundMiddle (Leads.arranged chain sound arranged) ih handle
      (move.fate soundMiddle alive)

end UsbHost
