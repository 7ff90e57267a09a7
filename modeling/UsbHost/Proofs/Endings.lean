import UsbHost.Proofs.NativeCalls
import UsbHost.World

/-!
# How operations end

An operation on the world ends with a value or is refused. What holds at either end is found by
following the operation from call to call. A refusal leaves at most one journal entry and one
failure event behind, because the native call that was refused did so.
-/

set_option autoImplicit false

namespace UsbHost

variable {α β : Type} {world after : World} {ok : α → World → Prop}
  {refused : UsbError → World → Prop}

/-- What holds at the end of an operation, whether it ends with a value or is refused. -/
def Usb.Ends (operation : Usb α) (world : World) (ok : α → World → Prop)
    (refused : UsbError → World → Prop) : Prop :=
  match operation world with
  | .ok value after => ok value after
  | .error error after => refused error after

namespace Usb

@[simp] theorem ends_pure {value : α} :
    Ends (pure value) world ok refused ↔ ok value world :=
  Iff.rfl

@[simp] theorem ends_throw {error : UsbError} :
    Ends (throw error : Usb α) world ok refused ↔ refused error world :=
  Iff.rfl

@[simp] theorem ends_lift {operation : World → α × World} :
    Ends (lift operation) world ok refused ↔ ok (operation world).1 (operation world).2 :=
  Iff.rfl

@[simp] theorem ends_debug {notice : Notice} {done : Unit → World → Prop} :
    Ends (debug notice) world done refused ↔ done () (world.note .debug notice) :=
  Iff.rfl

@[simp] theorem ends_bind {first : Usb α} {next : α → Usb β} {done : β → World → Prop} :
    Ends (first >>= next) world done refused ↔
      Ends first world (fun value after => Ends (next value) after done refused) refused := by
  simp only [Ends, bind, EStateM.bind]
  cases first world with
  | ok value after => rfl
  | error error after => rfl

theorem Ends.imp {operation : Usb α} {ok' : α → World → Prop}
    {refused' : UsbError → World → Prop} (ends : operation.Ends world ok refused)
    (whenOk : ∀ value after, ok value after → ok' value after)
    (whenRefused : ∀ error after, refused error after → refused' error after) :
    operation.Ends world ok' refused' := by
  unfold Ends at ends ⊢
  cases reached : operation world with
  | ok value after =>
    rw [reached] at ends
    exact whenOk value after ends
  | error error after =>
    rw [reached] at ends
    exact whenRefused error after ends

theorem Ends.of_ok {operation : Usb α} {value : α} (ends : operation.Ends world ok refused)
    (reached : operation world = .ok value after) : ok value after := by
  rwa [Ends, reached] at ends

theorem Ends.of_error {operation : Usb α} {error : UsbError}
    (ends : operation.Ends world ok refused) (reached : operation world = .error error after) :
    refused error after := by
  rwa [Ends, reached] at ends

/-- An operation that cannot be refused ends with a value. -/
theorem Ends.succeeds {operation : Usb α} (ends : operation.Ends world ok fun _ _ => False) :
    ∃ value after, operation world = .ok value after ∧ ok value after := by
  unfold Ends at ends
  cases reached : operation world with
  | ok value after =>
    rw [reached] at ends
    exact ⟨value, after, rfl, ends⟩
  | error error after =>
    rw [reached] at ends
    exact ends.elim

end Usb

/-! ## Refusals -/

/-- Nothing differs but at most one more journal entry and at most one more failure event. -/
structure World.Refused (before after : World) : Prop where
  bus : ∃ entries : List JournalEntry, entries.length ≤ 1 ∧
    after.bus = { before.bus with journal := before.bus.journal ++ entries }
  log : ∃ events : Log, events.length ≤ 1 ∧ (∀ event ∈ events, event.isFailure) ∧
    after.log = before.log ++ events

theorem World.Refused.refl (world : World) : world.Refused world :=
  ⟨⟨[], by simp, by simp⟩, ⟨[], by simp, by simp, by simp⟩⟩

theorem World.Refused.quiet {before after : World} (refused : before.Refused after) :
    before.bus.Quiet after.bus := by
  obtain ⟨⟨entries, -, same⟩, -⟩ := refused
  rw [same]
  exact ⟨⟨rfl, rfl, rfl, rfl, rfl, rfl, rfl, rfl⟩, rfl, rfl, rfl⟩

namespace Library

variable {library : Library} {policy : CallPolicy} {site : String} {function : NativeFunction}
  {native : Bus → Reply α × Bus}

theorem failureCode_eq_some {returned code : Int} (fails : failureCode returned = some code) :
    returned < 0 := by
  unfold failureCode at fails
  split at fails
  · contradiction
  · omega

theorem raised?_eq_some {returned : Int} {error : UsbError}
    (raised : library.raised? policy returned = some error) : returned < 0 := by
  unfold raised? at raised
  split at raised
  · obtain ⟨code, fails, -⟩ := Option.map_eq_some_iff.mp raised
    exact failureCode_eq_some fails
  · contradiction

theorem raised?_eq_none {returned : Int} (raised : library.raised? policy returned = none)
    (raises : policy.raise) : 0 ≤ returned := by
  rw [raised?, if_pos raises, Option.map_eq_none_iff, failureCode] at raised
  split at raised
  · assumption
  · split at raised <;> contradiction

theorem failureLog_spec (library : Library) (policy : CallPolicy) (site function : String)
    (returned : Int) :
    (library.failureLog policy site function returned).length ≤ 1 ∧
      ∀ event ∈ library.failureLog policy site function returned, event.isFailure := by
  unfold failureLog
  cases failureCode returned with
  | none => simp
  | some code => simp [failureEvent, Event.isFailure]

theorem invoke_apply (library : Library) (policy : CallPolicy) (site : String) (world : World) :
    library.invoke policy site function native world =
      match library.raised? policy (native world.bus).1.code with
      | some error => .error error (library.attempt policy site function native world).2
      | none => .ok (native world.bus).1 (library.attempt policy site function native world).2 := by
  change (match library.raised? policy (native world.bus).1.code with
    | some error => throw error
    | none => pure (native world.bus).1 : Usb (Reply α)) _ = _
  cases library.raised? policy (native world.bus).1.code <;> rfl

/-- A call is refused if its policy raises its failure, and otherwise ends with its reply. -/
theorem invoke_ends {done : Reply α → World → Prop} :
    (library.invoke policy site function native).Ends world done refused ↔
      match library.raised? policy (native world.bus).1.code with
      | some error => refused error (library.attempt policy site function native world).2
      | none =>
        done (native world.bus).1 (library.attempt policy site function native world).2 := by
  rw [Usb.Ends, invoke_apply]
  cases library.raised? policy (native world.bus).1.code <;> rfl

theorem attempt_refused (untouched : world.bus.Untouched (native world.bus).2) :
    world.Refused (library.attempt policy site function native world).2 := by
  obtain ⟨entry, same⟩ := untouched
  have logged := library.failureLog_spec policy site function.name (native world.bus).1.code
  exact ⟨⟨[entry], by simp, same⟩, ⟨_, logged.1, logged.2, rfl⟩⟩

theorem invoke_of {done : Reply α → World → Prop}
    (whenRaised : (native world.bus).1.code < 0 → world.bus.Untouched (native world.bus).2)
    (whenDone : (policy.raise → 0 ≤ (native world.bus).1.code) →
      done (native world.bus).1 (library.attempt policy site function native world).2) :
    (library.invoke policy site function native).Ends world done
      (fun _ after => world.Refused after) := by
  rw [invoke_ends]
  split
  · next error raised => exact attempt_refused (whenRaised (raised?_eq_some raised))
  · next raised => exact whenDone (raised?_eq_none raised)

end Library

/-- A call that may make a title ends with the title, or is refused without a trace on the bus. -/
theorem Bus.Obtains.invoke {library : Library} {policy : CallPolicy} {site : String}
    {function : NativeFunction} {native : Bus → Reply α × Bus} {title : α → Title}
    (obtains : world.bus.Obtains (native world.bus).1 (native world.bus).2 title) :
    (library.invoke policy site function native).Ends world
      (fun reply after => world.bus.Acquires after.bus (reply.out.map title) ∧
        (reply.code < 0 → reply.out = none))
      (fun _ after => world.Refused after) :=
  Library.invoke_of (fun negative => (obtains.failed negative).2)
    fun _ => ⟨obtains.acquires, fun negative => (obtains.failed negative).1⟩

/-- A call that makes no title ends quietly, or is refused without a trace on the bus. -/
theorem Bus.Answers.invoke {library : Library} {policy : CallPolicy} {site : String}
    {function : NativeFunction} {native : Bus → Reply α × Bus}
    (answers : world.bus.Answers (native world.bus).1 (native world.bus).2) :
    (library.invoke policy site function native).Ends world
      (fun _ after => world.bus.Quiet after.bus) (fun _ after => world.Refused after) :=
  Library.invoke_of answers.failed fun _ => answers.quiet

end UsbHost
