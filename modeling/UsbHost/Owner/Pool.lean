import UsbHost.Owner.Basic
import UsbHost.Slots

/-!
# Owners in slots

Owners under names, each with a disposer of its own. A new owner in a taken slot displaces the old
one, which is dropped afterwards. What a disposer does is left open: it may change itself and the
state that all of them share.
-/

set_option autoImplicit false

namespace UsbHost.Owner

/-- What disposing of an address does to the disposer and to the shared state, and what the copy of
a disposer is. -/
structure Disposer (δ σ : Type) where
  dispose : Nat → δ → σ → δ × σ
  clone : δ → δ

/-- An owner of an address and its disposer. -/
structure Held (δ : Type) where
  owner : Owner Nat
  disposer : δ
  deriving DecidableEq, Repr

structure Pool (δ σ : Type) where
  slots : Slots (Held δ) := []
  state : σ

/-- What is done to the owner in a slot. -/
inductive PoolStep (δ : Type) where
  | empty (disposer : δ)
  | fromRaw (raw : Nat) (disposer : δ)
  | reset (raw : Nat)
  | clear
  | release
  | takeTo (target : String)
  | moveTo (target : String)
  | drop
  deriving DecidableEq, Repr

/-- The address that a pointer owns: null owns nothing. -/
def nonNull (raw : Nat) : Option Nat :=
  if raw = 0 then none else some raw

namespace Disposer

variable {δ σ : Type}

/-- Disposes of an address where a disposer and the shared state are. -/
def disposal (disposer : Disposer δ σ) (raw : Nat) (place : δ × σ) : δ × σ :=
  disposer.dispose raw place.1 place.2

end Disposer

namespace Pool

variable {δ σ : Type}

/-- Drops an owner: what it owns is disposed of. -/
def dropHeld (disposer : Disposer δ σ) (pool : Pool δ σ) (held : Held δ) : Pool δ σ :=
  { pool with state := (held.owner.drop disposer.disposal (held.disposer, pool.state)).2 }

/-- Puts an owner into a slot and then drops the one that stood there. -/
def store (disposer : Disposer δ σ) (pool : Pool δ σ) (slot : String) (held : Held δ) :
    Pool δ σ :=
  let old := pool.slots.get? slot
  let pool := { pool with slots := pool.slots.put slot held }
  old.elim pool (pool.dropHeld disposer)

/-- Replaces the owner of a slot by another state of the same owner, without dropping it. -/
def update (pool : Pool δ σ) (slot : String) (held : Held δ) : Pool δ σ :=
  { pool with slots := pool.slots.put slot held }

/-- Performs a step on the owner of `slot`, and answers what the owner released. -/
def stepOn (disposer : Disposer δ σ) (pool : Pool δ σ) (slot : String) (held : Held δ) :
    PoolStep δ → Option Nat × Pool δ σ
  | .empty _ | .fromRaw .. => (none, pool)
  | .reset raw =>
    let (owner, own, state) :=
      held.owner.reset disposer.disposal (nonNull raw) (held.disposer, pool.state)
    (none, { pool with state }.update slot { owner, disposer := own })
  | .clear =>
    let (owner, own, state) := held.owner.clear disposer.disposal (held.disposer, pool.state)
    (none, { pool with state }.update slot { owner, disposer := own })
  | .release =>
    let (raw, owner) := held.owner.release
    (raw, pool.update slot { held with owner })
  | .takeTo target =>
    let (taken, owner) := held.owner.take
    (none, (pool.update slot { held with owner }).store disposer target
      { owner := taken, disposer := disposer.clone held.disposer })
  | .moveTo target =>
    (none, { pool with slots := pool.slots.remove slot }.store disposer target held)
  | .drop => (none, { pool with slots := pool.slots.remove slot }.dropHeld disposer held)

/-- Performs one step, and answers what an owner released. A step on an empty slot does nothing
unless it makes an owner. -/
def step (disposer : Disposer δ σ) (pool : Pool δ σ) (slot : String) :
    PoolStep δ → Option Nat × Pool δ σ
  | .empty own => (none, pool.store disposer slot { owner := .empty, disposer := own })
  | .fromRaw raw own =>
    (none, pool.store disposer slot { owner := .ofRaw (nonNull raw), disposer := own })
  | step => (pool.slots.get? slot).elim (none, pool) fun held =>
    pool.stepOn disposer slot held step

def run (disposer : Disposer δ σ) (pool : Pool δ σ) (steps : List (String × PoolStep δ)) :
    Pool δ σ :=
  steps.foldl (fun pool step => (pool.step disposer step.1 step.2).2) pool

/-- Drops all owners, in the order of their names. -/
def teardown (disposer : Disposer δ σ) (pool : Pool δ σ) : Pool δ σ :=
  pool.slots.inOrder.foldl (fun pool slot => pool.dropHeld disposer slot.2)
    { pool with slots := [] }

end Pool

end UsbHost.Owner
