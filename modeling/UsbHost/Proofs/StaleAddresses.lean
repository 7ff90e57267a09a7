import Mathlib.Algebra.Group.Nat.Defs
import UsbHost.Proofs.Issuance

/-!
# Addresses out of use

An address that a closed handle or an ended context had is never in use again, since the counter
has passed it. Whoever still holds it can do no harm with it: a call on it is taken down as a
misuse, and everything that is alive stays as it is.
-/

set_option autoImplicit false

namespace UsbHost

/-- The handle that a call is made on. -/
def NativeCall.handle? : NativeCall → Option Address
  | closeHandle handle | getDevice handle | claimInterface handle _ | releaseInterface handle _
  | setConfiguration handle _ | getConfiguration handle | setAutoDetach handle _ => some handle
  | _ => none

namespace Bus

variable {α : Type} {bus after : Bus} {address : Address} {call : NativeCall} {step : BusStep}
  {kind : AddressKind}

/-! ## Calls that are turned away -/

/-- The call is taken down as a misuse and does nothing else, but for its journal entry. -/
def Rebuffs (bus : Bus) (call : NativeCall) (misuse : Misuse) : Prop :=
  ∃ entry : JournalEntry, entry.function = call.function ∧
    call.after bus =
      { bus with journal := bus.journal ++ [entry], misuse := bus.misuse ++ [misuse] }

theorem rebuffs_report {misuse : Misuse}
    (same : call.after bus = (bus.record call.function).report misuse) :
    bus.Rebuffs call misuse :=
  ⟨{ function := call.function }, rfl, same⟩

theorem exitLibrary_rebuffs (missing : address ∉ AddressKind.context.live bus) :
    bus.Rebuffs (.exitLibrary address) (.unknownContext address) := by
  refine rebuffs_report ?_
  have absent : address ∉ (bus.record .exitLibrary).contexts := missing
  show bus.exitLibrary address = _
  rw [exitLibrary, if_neg absent]
  rfl

theorem answering_missing {function : NativeFunction} {argument injected : Option Int}
    {body : OpenHandle → Reply α × Bus} (unanswered : injected = none)
    (missing : bus.handle? address = none) :
    ∃ entry : JournalEntry, entry.function = function ∧
      (bus.answering function argument injected (bus.withHandle function address body)).2 =
        { bus with
          journal := bus.journal ++ [entry]
          misuse := bus.misuse ++ [.unknownHandle function address] } := by
  rw [unanswered, withHandle, missing]
  exact ⟨_, rfl, rfl⟩

theorem closeHandle_rebuffs (missing : bus.handle? address = none) :
    bus.Rebuffs (.closeHandle address) (.unknownHandle .closeHandle address) := by
  refine rebuffs_report ?_
  have absent : (bus.record .closeHandle).handle? address = none := missing
  show bus.closeHandle address = _
  rw [closeHandle, absent]
  rfl

theorem getDevice_rebuffs (missing : bus.handle? address = none) :
    bus.Rebuffs (.getDevice address) (.unknownHandle .getDevice address) := by
  refine rebuffs_report ?_
  have absent : (bus.record .getDevice).handle? address = none := missing
  show (bus.getDevice address).2 = _
  rw [getDevice, absent]
  rfl

/-- A call on a handle that is not open does nothing, unless an injected code is its answer. -/
theorem handle?_rebuffs (named : call.handle? = some address)
    (missing : address ∉ AddressKind.handle.live bus) (unanswered : call.injected? bus = none) :
    bus.Rebuffs call (.unknownHandle call.function address) := by
  have absent : bus.handle? address = none := Keyed.find?_eq_none_iff.mpr missing
  cases call with
  | closeHandle handle =>
    obtain rfl := Option.some.inj named
    exact closeHandle_rebuffs absent
  | getDevice handle =>
    obtain rfl := Option.some.inj named
    exact getDevice_rebuffs absent
  | claimInterface handle _ | releaseInterface handle _ | setConfiguration handle _
  | getConfiguration handle | setAutoDetach handle _ =>
    obtain rfl := Option.some.inj named
    exact answering_missing unanswered absent
  | _ => contradiction

/-! ## Out of use for good -/

/-- A call puts an address out of use: it ends the context or closes the handle that is there. -/
inductive Ends (bus : Bus) (address : Address) : NativeCall → Prop where
  | context : address ∈ AddressKind.context.live bus → Ends bus address (.exitLibrary address)
  | handle : address ∈ AddressKind.handle.live bus → Ends bus address (.closeHandle address)

/-- An address was handed out, and it is in use no more. -/
structure Retired (bus : Bus) (address : Address) : Prop where
  issued : address < bus.nextAddress
  unused : ∀ kind : AddressKind, address ∉ kind.live bus

theorem Issues.retired (issues : bus.Issues step) (retired : bus.Retired address) :
    (bus.step step).Retired address := by
  cases issues with
  | hands created _ _ grown =>
    refine ⟨grown.next ▸ Nat.lt_trans retired.issued bus.lt_nextAddress, fun kind member => ?_⟩
    rw [grown.live] at member
    rcases List.mem_append.mp member with old | new
    · exact retired.unused kind old
    · split at new
      · exact Nat.ne_of_lt retired.issued (List.mem_singleton.mp new)
      · exact List.not_mem_nil new
  | idle _ _ ungrown =>
    exact ⟨ungrown.next ▸ retired.issued,
      fun kind member => retired.unused kind ((ungrown.live kind).subset member)⟩

theorem Coherent.run_retired (coherent : bus.Coherent) (retired : bus.Retired address)
    (steps : List BusStep) : (bus.run steps).Retired address := by
  induction steps generalizing bus with
  | nil => exact retired
  | cons step later ih =>
    exact ih (coherent.step step) ((coherent.issues step).retired retired)

theorem not_mem_exitLibrary (bus : Bus) (context : Address) :
    context ∉ (bus.exitLibrary context).contexts := by
  unfold exitLibrary
  dsimp only
  split
  · simp
  · next missing => exact missing

theorem not_mem_closeHandle (bus : Bus) (handle : Address) :
    handle ∉ (bus.closeHandle handle).handles.map OpenHandle.id := by
  unfold closeHandle
  dsimp only
  split
  · next missing => exact Keyed.find?_eq_none_iff.mp missing
  · rw [(giveBack_debited ..).handles]
    simp

/-- What is taken out of the addresses of one kind is in use for nothing else. -/
theorem Ungrown.retired (ungrown : bus.Ungrown after) (coherent : bus.Coherent)
    (apart : bus.Apart) (alive : address ∈ kind.live bus) (taken : address ∉ kind.live after) :
    after.Retired address where
  issued := ungrown.next ▸ (coherent.addresses kind).below address alive
  unused other member := by
    by_cases same : kind = other
    · exact taken (same ▸ member)
    · exact apart kind other same alive ((ungrown.live other).subset member)

theorem Ends.retired (ends : bus.Ends address call) (coherent : bus.Coherent)
    (apart : bus.Apart) : (call.after bus).Retired address := by
  cases ends with
  | context alive =>
    exact (coherent.after_ungrown (.exitLibrary address) rfl).retired coherent apart alive
      (bus.not_mem_exitLibrary address)
  | handle alive =>
    exact (coherent.after_ungrown (.closeHandle address) rfl).retired coherent apart alive
      (bus.not_mem_closeHandle address)

/-- An address that nothing has any more: an end of the context and any use of the handle that may
have been there is a misuse, unless an injected code is the answer. -/
structure Stale (bus : Bus) (address : Address) : Prop where
  unused : ∀ kind : AddressKind, address ∉ kind.live bus
  exit : bus.Rebuffs (.exitLibrary address) (.unknownContext address)
  use : ∀ call : NativeCall, call.handle? = some address → call.injected? bus = none →
    bus.Rebuffs call (.unknownHandle call.function address)

theorem Retired.stale (retired : bus.Retired address) : bus.Stale address where
  unused := retired.unused
  exit := exitLibrary_rebuffs (retired.unused .context)
  use _ named unanswered := handle?_rebuffs named (retired.unused .handle) unanswered

/-! ## The issuance of addresses -/

/-- How a run on a fresh bus hands out addresses, and what becomes of them. -/
structure Issuance (steps : List BusStep) : Prop where
  /-- The addresses that creating steps hand out are numbered through. -/
  numbered : ∀ place taken, ((trail {} steps).filter TakenStep.creates)[place]? = some taken →
    taken.handsOut? = some (0x1000 + 0x10 * place)
  /-- What is created is there under the address that is handed out. -/
  created : ∀ taken ∈ trail {} steps, ∀ kind, taken.creates? = some kind →
    kind.live taken.after = kind.live taken.bus ++ taken.handsOut?.toList
  /-- No other step hands out an address or uses one up. -/
  others : ∀ taken ∈ trail {} steps, taken.creates? = none →
    taken.handsOut? = none ∧ taken.after.nextAddress = taken.bus.nextAddress
  /-- The counter passes over no address. -/
  next : (run {} steps).nextAddress = 0x1000 + 0x10 * issued {} steps
  /-- The counter, and with it every address, is a word as long as there are fewer than 2^59. -/
  word : issued {} steps < 2 ^ 59 → (run {} steps).nextAddress < 2 ^ 64
  /-- Nothing in use has the address of something of another kind. -/
  apart : ∀ kind other : AddressKind, kind ≠ other →
    List.Disjoint (kind.live (run {} steps)) (other.live (run {} steps))
  /-- What is in use was handed out before. -/
  below : ∀ kind : AddressKind, ∀ address ∈ kind.live (run {} steps),
    address < (run {} steps).nextAddress
  /-- An open handle is on an attached device. -/
  bound : ∀ opened ∈ (run {} steps).handles,
    opened.device ∈ AddressKind.device.live (run {} steps)
  /-- The address of a closed handle or an ended context stays out of use. -/
  ended : ∀ earlier call later address, steps = earlier ++ .call call :: later →
    (run {} earlier).Ends address call → (run {} steps).Stale address

theorem Issues.live_after {taken : TakenStep} (issues : taken.bus.Issues taken.step)
    (created : taken.creates? = some kind) :
    kind.live taken.after = kind.live taken.bus ++ taken.handsOut?.toList := by
  cases issues with
  | hands made named handed grown =>
    obtain rfl : kind = made := Option.some.inj (created.symm.trans named)
    have live := grown.live kind
    rw [if_pos rfl] at live
    rw [TakenStep.handsOut?, handed]
    exact live
  | idle nothing => exact nomatch created.symm.trans nothing

theorem Issues.keeps {taken : TakenStep} (issues : taken.bus.Issues taken.step)
    (idle : taken.creates? = none) :
    taken.handsOut? = none ∧ taken.after.nextAddress = taken.bus.nextAddress := by
  cases issues with
  | hands made named => exact nomatch idle.symm.trans named
  | idle _ handed ungrown => exact ⟨handed, ungrown.next⟩

/-- Whatever a run on a fresh bus calls and frees, its addresses are fresh forever. -/
theorem run_issuance (steps : List BusStep) : Issuance steps := by
  have issues := coherent_nothing.trail_issues steps
  have coherent : (run {} steps).Coherent := coherent_nothing.run steps
  have next : (run {} steps).nextAddress = 0x1000 + 0x10 * issued {} steps :=
    coherent_nothing.run_issued steps
  refine
    { numbered := fun place taken found => coherent_nothing.created_handsOut steps found
      created := fun taken member kind created => (issues taken member).live_after created
      others := fun taken member idle => (issues taken member).keeps idle
      next
      word := fun few => ?_
      apart := coherent_nothing.run_apart apart_nothing steps
      below := fun kind => (coherent.addresses kind).below
      bound := coherent.bound
      ended := ?_ }
  · have word (count : Nat) (below : count < 2 ^ 59) : 0x1000 + 0x10 * count < 2 ^ 64 := by omega
    exact next ▸ word _ few
  · rintro earlier call later address rfl ends
    have before : (run {} earlier).Coherent := coherent_nothing.run earlier
    have retired : ((run {} earlier).step (.call call)).Retired address :=
      ends.retired before (coherent_nothing.run_apart apart_nothing earlier)
    rw [run_append]
    exact ((before.step _).run_retired retired later).stale

/-- A handle that is opened anew gets a new address, and closing the old one again is seen. -/
example :
    let steps : List BusStep := [.attach {}, .call .initLibrary, .call (.openDevice 0x1000),
      .call (.closeHandle 0x1020), .call (.openDevice 0x1000), .call (.closeHandle 0x1020)]
    (trail {} steps).filterMap TakenStep.handsOut? = [0x1000, 0x1010, 0x1020, 0x1030] ∧
      (run {} steps).misuse = [.unknownHandle .closeHandle 0x1020] := by
  decide

end Bus

end UsbHost
