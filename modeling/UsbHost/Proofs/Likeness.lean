import UsbHost.Proofs.Journal
import UsbHost.Session.Resource

/-!
# Two runs side by side

Two runs of the same operations may carry libraries with other texts or other policies, and are to
be compared. What may differ is put down once, as a likeness of libraries and of log events; it has
to keep the one thing that operations look at, which is whether an ordinary call raises. Two
operations are then alike if, started in worlds that are alike, they end in the same way: this is
followed from call to call, with one rule for each way to build an operation.
-/

set_option autoImplicit false

namespace UsbHost

/-- What a native call is made for. It decides the policy of the call. -/
inductive Purpose where
  | ordinary
  | cleanup
  | query
  | explicit (policy : CallPolicy)

def Purpose.policy (library : Library) : Purpose → CallPolicy
  | ordinary => library.policies.call
  | cleanup => library.policies.cleanup
  | query => library.policies.query.quiet
  | explicit policy => policy

/-- What may differ between two runs: the libraries that resources carry, and the logged events. -/
structure Likeness where
  library : Library → Library → Prop
  event : Event → Event → Prop
  raise : ∀ {left right}, library left right →
    right.policies.call.raise = left.policies.call.raise
  settle : ∀ {left right}, library left right → ∀ policies : Policies,
    library { left with policies } { right with policies }
  failure : ∀ {left right}, library left right → ∀ (purpose : Purpose) (site function : String)
    (code : Int), event (left.failureEvent (purpose.policy left) site function code)
      (right.failureEvent (purpose.policy right) site function code)
  note : ∀ level notice, event (.note level notice) (.note level notice)

namespace Likeness

variable {like : Likeness}

/-- Worlds with the same bus, whose logs are alike event by event. -/
structure Worlds (like : Likeness) (left right : World) : Prop where
  bus : right.bus = left.bus
  log : List.Forall₂ like.event left.log right.log

/-- Failures that are alike, after the native calls in `calls`: either the library's own refusal,
before any call that answers a code, or the failure of the last call, in the words of each
library. -/
inductive Refused (like : Likeness) (calls : List JournalEntry) : UsbError → UsbError → Prop where
  | own (kind : ErrorKind) : (∀ entry ∈ calls, entry.returned = none) →
      Refused like calls (.ofKind kind) (.ofKind kind)
  | native {left right : Library} {entry : JournalEntry} {returned code : Int} :
      like.library left right → calls.getLast? = some entry → entry.returned = some returned →
      failureCode returned = some code →
      Refused like calls (left.failure code) (right.failure code)

def Moves (like : Likeness) (one other : World → World) : Prop :=
  ∀ ⦃left right⦄, like.Worlds left right → like.Worlds (one left) (other right)

/-! ## Worlds -/

namespace Worlds

variable {left right : World}

theorem emit (worlds : like.Worlds left right) {event other : Event}
    (alike : like.event event other) : like.Worlds (left.emit event) (right.emit other) :=
  ⟨worlds.bus, List.rel_append worlds.log (.cons alike .nil)⟩

theorem note (worlds : like.Worlds left right) (level : Level) (notice : Notice) :
    like.Worlds (left.note level notice) (right.note level notice) :=
  worlds.emit (like.note level notice)

theorem call (worlds : like.Worlds left right) (native : Bus → Bus) :
    like.Worlds (left.call native) (right.call native) :=
  ⟨congrArg native worlds.bus, worlds.log⟩

theorem ask {α : Type} (worlds : like.Worlds left right) (native : Bus → α × Bus) :
    (right.ask native).1 = (left.ask native).1 ∧
      like.Worlds (left.ask native).2 (right.ask native).2 :=
  ⟨congrArg (fun bus => (native bus).1) worlds.bus,
    congrArg (fun bus => (native bus).2) worlds.bus, worlds.log⟩

end Worlds

end Likeness

/-! ## Operations -/

namespace Usb

variable {α β γ δ : Type} {like : Likeness} {left right : World}

/-- Two operations, the one started in `left`, ended in the same way: with values that are related,
or with failures that are alike. -/
inductive EndAlike (like : Likeness) (left : World) (values : α → β → Prop) :
    EStateM.Result UsbError World α → EStateM.Result UsbError World β → Prop where
  | ok {value : α} {value' : β} {after after' : World} : like.Worlds after after' →
      values value value' → EndAlike like left values (.ok value after) (.ok value' after')
  | error {error error' : UsbError} {after after' : World} (calls : List JournalEntry) :
      like.Worlds after after' → after.bus.journal = left.bus.journal ++ calls →
      like.Refused calls error error' →
      EndAlike like left values (.error error after) (.error error' after')

/-- Two operations ended with values that are related; neither was refused. -/
inductive EndWell (like : Likeness) (values : α → β → Prop) :
    EStateM.Result UsbError World α → EStateM.Result UsbError World β → Prop where
  | ok {value : α} {value' : β} {after after' : World} : like.Worlds after after' →
      values value value' → EndWell like values (.ok value after) (.ok value' after')

def Alike (like : Likeness) (one : Usb α) (other : Usb β) (left right : World)
    (values : α → β → Prop) : Prop :=
  EndAlike like left values (one left) (other right)

def Both (like : Likeness) (one : Usb α) (other : Usb β) (left right : World)
    (values : α → β → Prop) : Prop :=
  EndWell like values (one left) (other right)

variable {values : α → β → Prop} {results : γ → δ → Prop}

theorem Alike.pure (worlds : like.Worlds left right) {value : α} {value' : β}
    (related : values value value') :
    Alike like (Pure.pure value) (Pure.pure value') left right values :=
  .ok worlds related

theorem Both.pure (worlds : like.Worlds left right) {value : α} {value' : β}
    (related : values value value') :
    Both like (Pure.pure value) (Pure.pure value') left right values :=
  .ok worlds related

/-- A refusal of the library's own, before any native call. -/
theorem Alike.refuse (worlds : like.Worlds left right) (kind : ErrorKind) :
    Alike like (throw (.ofKind kind)) (throw (.ofKind kind)) left right values :=
  .error [] worlds (List.append_nil _).symm (.own kind (List.forall_mem_nil _))

theorem Both.debug (worlds : like.Worlds left right) (notice : Notice) {one : Usb γ} {other : Usb δ}
    (next : like.Worlds (left.note .debug notice) (right.note .debug notice) →
      Both like one other (left.note .debug notice) (right.note .debug notice) results) :
    Both like (do Usb.debug notice; one) (do Usb.debug notice; other) left right results :=
  next (worlds.note .debug notice)

theorem Both.alike {one : Usb α} {other : Usb β} {before : World}
    (both : Both like one other left right values) :
    EndAlike like before values (one left) (other right) := by
  unfold Both at both
  generalize one left = ended at both ⊢
  generalize other right = ended' at both ⊢
  cases both with
  | ok worlds related => exact .ok worlds related

/-- What follows on two operations that are alike, and is not refused itself. -/
theorem Alike.bind {one : Usb α} {other : Usb β} (alike : Alike like one other left right values)
    {next : α → Usb γ} {next' : β → Usb δ}
    (both : ∀ {value value' after after'}, values value value' → like.Worlds after after' →
      Both like (next value) (next' value') after after' results) :
    Alike like (one >>= next) (other >>= next') left right results := by
  unfold Alike at alike ⊢
  simp only [Bind.bind, EStateM.bind]
  generalize one left = ended at alike ⊢
  generalize other right = ended' at alike ⊢
  cases alike with
  | error calls worlds journal refused => exact .error calls worlds journal refused
  | ok worlds related => exact (both related worlds).alike

/-- What follows on a native call that answers no code, judged from before the call. -/
theorem Alike.ask (worlds : like.Worlds left right) (native : Bus → α × Bus)
    {next : α → Usb γ} {next' : α → Usb δ}
    (ends : ∀ value, like.Worlds (left.ask native).2 (right.ask native).2 →
      EndAlike like left results (next value (left.ask native).2)
        (next' value (right.ask native).2)) :
    Alike like (Usb.lift (·.ask native) >>= next) (Usb.lift (·.ask native) >>= next') left right
      results := by
  obtain ⟨same, asked⟩ := worlds.ask native
  have both := ends (left.ask native).1 asked
  show EndAlike like left results (next (left.ask native).1 _) (next' (right.ask native).1 _)
  rw [same]
  exact both

end Usb

/-! ## Checked calls -/

namespace Library

variable {α : Type} {like : Likeness} {one other : Library} {left right : World}
  {function : NativeFunction} {native : Bus → Reply α × Bus}

theorem attempt_like (libraries : like.library one other) (worlds : like.Worlds left right)
    (purpose : Purpose) (site : String) (function : NativeFunction)
    (native : Bus → Reply α × Bus) :
    (other.attempt (purpose.policy other) site function native right).1 =
        (one.attempt (purpose.policy one) site function native left).1 ∧
      like.Worlds (one.attempt (purpose.policy one) site function native left).2
        (other.attempt (purpose.policy other) site function native right).2 := by
  obtain ⟨replies, asked⟩ := worlds.ask native
  refine ⟨replies, asked.bus, List.rel_append asked.log ?_⟩
  unfold failureLog
  rw [show (native right.bus).1.code = (native left.bus).1.code from congrArg Reply.code replies]
  cases failureCode (native left.bus).1.code with
  | none => exact .nil
  | some code => exact .cons (like.failure libraries purpose site function.name code) .nil

/-- A checked call is made, logged and raised in both runs alike, provided that it raises in both
or in neither. -/
theorem invoke_like (libraries : like.library one other) (worlds : like.Worlds left right)
    (coded : Bus.Coded function native) (purpose : Purpose) (site : String)
    (raises : (purpose.policy other).raise = (purpose.policy one).raise) :
    Usb.Alike like (one.invoke (purpose.policy one) site function native)
      (other.invoke (purpose.policy other) site function native) left right
      fun reply reply' => reply' = reply := by
  obtain ⟨replies, attempted⟩ := attempt_like libraries worlds purpose site function native
  obtain ⟨argument, journal⟩ := coded.journal left.bus
  have same : (native right.bus).1 = (native left.bus).1 := replies
  unfold Usb.Alike
  -- Both sides answer the same code, so they differ at most in the failure that they raise.
  rw [invoke_apply, invoke_apply, same, raised?, raised?, raises]
  cases (purpose.policy one).raise with
  | false => exact .ok attempted rfl
  | true =>
    cases fails : failureCode (native left.bus).1.code with
    | none => exact .ok attempted rfl
    | some code =>
      exact .error _ attempted journal (.native libraries List.getLast?_singleton rfl fails)

end Library

end UsbHost
