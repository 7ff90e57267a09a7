import UsbHost.Inspect

/-!
# Single owners

An owner holds at most one raw handle and disposes of it exactly once: when it is dropped, cleared
or reset, or never, if the handle was released before. What it means to dispose of a handle is
given by a function on the state that the handle lives in.
-/

set_option autoImplicit false

namespace UsbHost

/-- The owner of at most one raw handle. -/
structure Owner (α : Type) where
  raw : Option α := none
  deriving DecidableEq, Repr

namespace Owner

variable {α σ : Type}

def empty : Owner α := { raw := none }

/-- Takes a raw handle over; null makes an empty owner. -/
def ofRaw (raw : Option α) : Owner α := { raw }

/-- Whether nothing is owned. -/
def isEmpty (owner : Owner α) : Bool := owner.raw.isNone

/-- Disposes of what is owned, if anything is. -/
def dispose (disposal : α → σ → σ) (owner : Owner α) (state : σ) : σ :=
  match owner.raw with
  | some raw => disposal raw state
  | none => state

/-- Owns `raw` from now on and then disposes of what was owned before, even if it is the same. -/
def reset (disposal : α → σ → σ) (raw : Option α) (owner : Owner α) (state : σ) : Owner α × σ :=
  (ofRaw raw, owner.dispose disposal state)

/-- Disposes of what is owned and owns nothing any more. -/
def clear (disposal : α → σ → σ) (owner : Owner α) (state : σ) : Owner α × σ :=
  (empty, owner.dispose disposal state)

/-- Gives the raw handle up without disposing of it. -/
def release (owner : Owner α) : Option α × Owner α :=
  (owner.raw, empty)

/-- Moves what is owned to a new owner; the old one is empty. The first of the two is new. -/
def take (owner : Owner α) : Owner α × Owner α :=
  (owner, empty)

def drop (disposal : α → σ → σ) (owner : Owner α) (state : σ) : σ :=
  owner.dispose disposal state

/-- An owner of an address as it is shown for inspection. -/
def inspect (owner : Owner Nat) : Inspect :=
  .record "Scoped" [("raw", .address (owner.raw.getD 0))]

end Owner

end UsbHost
