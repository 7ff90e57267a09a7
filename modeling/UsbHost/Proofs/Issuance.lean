import UsbHost.Proofs.Growth

/-!
# Where addresses come from

Contexts, devices and handles take their addresses from one counter. A step that creates one of
them hands out the next address, and every other step leaves the counter where it is. So the
addresses of a run are numbered by the steps that created something, whatever was freed in between,
and none is ever in use twice.
-/

set_option autoImplicit false

namespace UsbHost

/-- What has an address of its own. -/
inductive AddressKind where
  | context
  | device
  | handle
  deriving DecidableEq, Repr

/-- The addresses of one kind that are in use. -/
def AddressKind.live (kind : AddressKind) (bus : Bus) : List Address :=
  match kind with
  | context => bus.contexts
  | device => bus.devices.map AttachedDevice.id
  | handle => bus.handles.map OpenHandle.id

namespace NativeCall

/-- The code that a call answers instead of doing anything. Entry points that answer no code take
none. -/
def injected? (call : NativeCall) (bus : Bus) : Option Int :=
  match call with
  | releaseInterface _ interface => bus.injectedRelease interface
  | _ => if call.function.isFallible then bus.injected call.function else none

/-- What a call is to create. -/
def kind? : NativeCall → Option AddressKind
  | initLibrary => some .context
  | openDevice _ | wrapSystemDevice .. => some .handle
  | _ => none

end NativeCall

namespace BusStep

/-- The address that a step answers for what it created. -/
def handsOut? (step : BusStep) (bus : Bus) : Option Address :=
  match step with
  | .attach info => some (bus.attach info).1
  | .call made => match made.answer bus with
    | .created reply => reply.out
    | _ => none
  | .fail .. | .failReleaseOf .. | .clearFailures => none

/-- What a step creates. Plugging a device in creates it; a call creates what it is to create
unless it answers an injected code or an error. -/
def creates? (step : BusStep) (bus : Bus) : Option AddressKind :=
  match step with
  | .attach _ => some .device
  | .call made => match made.answer bus with
    | .created reply =>
      if made.injected? bus = none ∧ 0 ≤ reply.code then made.kind? else none
    | _ => none
  | .fail .. | .failReleaseOf .. | .clearFailures => none

end BusStep

/-! ## Answers -/

/-- A call writes something, unless it answers an error. -/
def Reply.Plain {α : Type} (reply : Reply α) : Prop := reply.out.isSome ↔ 0 ≤ reply.code

theorem Reply.failed_plain {α : Type} (kind : ErrorKind) : (failed kind : Reply α).Plain :=
  iff_of_false Bool.false_ne_true (Int.not_le.mpr kind.code_neg)

theorem Reply.wrote_plain {α : Type} (out : α) : (wrote out).Plain :=
  iff_of_true rfl (Int.le_refl 0)

/-- A call that makes nothing of a kind adds nothing to what is alive of it. -/
theorem Stock.Turn.sublist {stock : Stock} {call : NativeCall} {bus after : Bus}
    (turn : stock.Turn call bus after) (unmade : stock.made? call bus = none) :
    (stock.live after).Sublist (stock.live bus) := by
  cases turn with
  | idle _ _ same => exact same ▸ .refl _
  | made made => exact nomatch unmade.symm.trans made
  | freed number _ _ _ same => exact same ▸ List.filter_sublist
  | missed _ _ same => exact same ▸ .refl _

namespace Bus

variable {α : Type} {bus after : Bus} {call : NativeCall} {step : BusStep} {kind : AddressKind}

theorem answering_writes {function : NativeFunction} {argument injected : Option Int}
    {body : Reply α × Bus} (plain : body.1.Plain) :
    (bus.answering function argument injected body).1.out.isSome ↔
      injected = none ∧ 0 ≤ (bus.answering function argument injected body).1.code := by
  rcases bus.answering_cases function argument injected body with ⟨code, rfl, same⟩ | ⟨rfl, same⟩
  · rw [same]
    exact iff_of_false Bool.false_ne_true fun both => nomatch both.1
  · rw [same]
    exact plain.trans (and_iff_right rfl).symm

theorem initLibrary_writes (bus : Bus) : bus.initLibrary.1.out.isSome ↔
    bus.injected .initLibrary = none ∧ 0 ≤ bus.initLibrary.1.code :=
  answering_writes (Reply.wrote_plain _)

theorem openDevice_writes (bus : Bus) (device : Address) :
    (bus.openDevice device).1.out.isSome ↔
      bus.injected .openDevice = none ∧ 0 ≤ (bus.openDevice device).1.code := by
  refine answering_writes ?_
  unfold withDevice
  split
  · dsimp only
    split
    · exact Reply.failed_plain _
    · exact Reply.wrote_plain _
  · exact Reply.failed_plain _

theorem wrapSystemDevice_writes (bus : Bus) (systemHandle : Int) :
    (bus.wrapSystemDevice systemHandle).1.out.isSome ↔
      bus.injected .wrapSystemDevice = none ∧
        0 ≤ (bus.wrapSystemDevice systemHandle).1.code := by
  refine answering_writes ?_
  split
  · exact Reply.wrote_plain _
  · exact Reply.failed_plain _

/-! ## One step -/

/-- The next address went into use for something of one kind, and nothing else went into use. -/
structure Grown (kind : AddressKind) (bus after : Bus) : Prop where
  next : after.nextAddress = bus.nextAddress + addressStride
  live : ∀ other : AddressKind, other.live after =
    other.live bus ++ if other = kind then [bus.nextAddress] else []

/-- No address went into use. -/
structure Ungrown (bus after : Bus) : Prop where
  next : after.nextAddress = bus.nextAddress
  live : ∀ kind : AddressKind, (kind.live after).Sublist (kind.live bus)

/-- What a step does to the addresses: it creates something and hands out the next one, or it hands
out none. -/
inductive Issues (bus : Bus) (step : BusStep) : Prop where
  | hands (kind : AddressKind) : step.creates? bus = some kind →
      step.handsOut? bus = some bus.nextAddress → bus.Grown kind (bus.step step) →
      Issues bus step
  | idle : step.creates? bus = none → step.handsOut? bus = none → bus.Ungrown (bus.step step) →
      Issues bus step

theorem Steady.addresses (steady : bus.Steady after) (kind : AddressKind) :
    kind.live after = kind.live bus := by
  cases kind with
  | context => exact steady.contexts
  | device => exact congrArg (List.map AttachedDevice.id) steady.devices
  | handle => exact steady.live .handles

theorem Steady.ungrown (steady : bus.Steady after) : bus.Ungrown after where
  next := steady.nextAddress
  live kind := steady.addresses kind ▸ .refl _

theorem Aside.ungrown (aside : bus.Aside after) : bus.Ungrown after := by
  obtain ⟨misuse, -, steady⟩ := aside
  exact ⟨steady.ungrown.next, fun kind => by cases kind <;> exact steady.ungrown.live _⟩

theorem attach_grown (bus : Bus) (info : DeviceInfo) : bus.Grown .device (bus.attach info).2 where
  next := rfl
  live other := by
    cases other with
    | device => exact bus.attach_ids info
    | context | handle => exact (List.append_nil _).symm

theorem addHandle_grown (bus : Bus) (device : Address) :
    bus.Grown .handle (bus.addHandle device).2 where
  next := rfl
  live other := by
    cases other with
    | context => exact (List.append_nil _).symm
    | device => exact (modifyReferences_ids ..).trans (List.append_nil _).symm
    | handle => exact List.map_append

theorem addContext_grown (bus : Bus) :
    bus.Grown .context
      { bus with
        nextAddress := bus.nextAddress + addressStride
        contexts := bus.contexts ++ [bus.nextAddress] } where
  next := rfl
  live other := by
    cases other with
    | context => rfl
    | device | handle => exact (List.append_nil _).symm

/-- A call that is to create something and answers an address has created it. -/
theorem Makes.issues {reply : Reply Address} {grown : Address → Bus → Prop}
    (makes : bus.Makes reply (call.after bus) grown) (named : call.kind? = some kind)
    (answered : call.answer bus = .created reply)
    (writes : reply.out.isSome ↔ call.injected? bus = none ∧ 0 ≤ reply.code)
    (grows : ∀ made expected, grown made expected →
      made = bus.nextAddress ∧ bus.Grown kind expected) : bus.Issues (.call call) := by
  have handed : (BusStep.call call).handsOut? bus = reply.out := by
    rw [BusStep.handsOut?, answered]
  have created : (BusStep.call call).creates? bus =
      if reply.out.isSome then some kind else none := by
    rw [BusStep.creates?, answered, named]
    exact if_congr writes.symm rfl rfl
  cases makes with
  | refused nothing aside =>
    rw [nothing] at handed created
    exact .idle created handed aside.ungrown
  | made grown out steady =>
    obtain ⟨rfl, expected⟩ := grows _ _ grown
    rw [out] at handed created
    refine .hands kind created handed ⟨steady.nextAddress.trans expected.next, fun other => ?_⟩
    exact (steady.addresses other).trans (expected.live other)

/-- A call that is to create nothing puts no address to use. -/
theorem Coherent.after_ungrown (coherent : bus.Coherent) (call : NativeCall)
    (nothing : call.kind? = none) : bus.Ungrown (call.after bus) := by
  have fair := perform_fair coherent call
  have idle : call.allocates = false := by cases call <;> first | rfl | contradiction
  refine ⟨after_nextAddress call idle bus, fun kind => ?_⟩
  cases kind with
  | context =>
    refine (fair.stocks .contexts).sublist ?_
    cases call <;> first | rfl | contradiction
  | device =>
    have same : AddressKind.device.live (call.after bus) = AddressKind.device.live bus := fair.ids
    exact same ▸ .refl _
  | handle =>
    refine (fair.stocks .handles).sublist ?_
    cases call <;> first | rfl | contradiction

theorem Coherent.issues (coherent : bus.Coherent) (step : BusStep) : bus.Issues step := by
  cases step with
  | attach info => exact .hands .device rfl rfl (bus.attach_grown info)
  | fail | failReleaseOf | clearFailures =>
    exact .idle rfl rfl (Steady.ungrown ⟨rfl, rfl, rfl, rfl, rfl, rfl, rfl, rfl⟩)
  | call call =>
    cases call with
    | initLibrary =>
      refine bus.initLibrary_makes.issues rfl rfl bus.initLibrary_writes ?_
      rintro _ _ ⟨rfl, rfl⟩
      exact ⟨rfl, bus.addContext_grown⟩
    | openDevice device =>
      refine (bus.openDevice_makes device).issues rfl rfl (bus.openDevice_writes device) ?_
      rintro _ _ ⟨rfl, device, -, rfl⟩
      exact ⟨rfl, bus.addHandle_grown device⟩
    | wrapSystemDevice context systemHandle =>
      refine (bus.wrapSystemDevice_makes systemHandle).issues rfl rfl
        (bus.wrapSystemDevice_writes systemHandle) ?_
      rintro _ _ ⟨rfl, device, -, rfl⟩
      exact ⟨rfl, bus.addHandle_grown device⟩
    | _ => exact .idle rfl rfl (coherent.after_ungrown _ rfl)

/-! ## Addresses in use -/

theorem Coherent.addresses (coherent : bus.Coherent) (kind : AddressKind) :
    Numbered (kind.live bus) bus.nextAddress := by
  cases kind with
  | context => exact coherent.contexts
  | device => exact coherent.devices
  | handle => exact coherent.handles

/-- No address is in use for two things. -/
def Apart (bus : Bus) : Prop :=
  ∀ kind other : AddressKind, kind ≠ other → List.Disjoint (kind.live bus) (other.live bus)

theorem apart_nothing : Apart {} :=
  fun kind _ _ _ member => by cases kind <;> exact nomatch member

theorem Issues.apart (issues : bus.Issues step) (coherent : bus.Coherent) (apart : bus.Apart) :
    (bus.step step).Apart := by
  cases issues with
  | hands created _ _ grown =>
    have fresh (kind : AddressKind) : bus.nextAddress ∉ kind.live bus := fun member =>
      Nat.lt_irrefl _ ((coherent.addresses kind).below _ member)
    intro kind other different
    rw [grown.live, grown.live]
    by_cases first : kind = created
    · rw [if_pos first, if_neg fun second => different (first.trans second.symm), List.append_nil]
      exact List.disjoint_append_left.mpr
        ⟨apart kind other different, List.singleton_disjoint.mpr (fresh other)⟩
    · rw [if_neg first, List.append_nil]
      refine List.disjoint_append_right.mpr ⟨apart kind other different, ?_⟩
      split
      · exact List.disjoint_singleton.mpr (fresh kind)
      · exact List.disjoint_nil_right _
  | idle _ _ ungrown =>
    intro kind other different
    exact List.disjoint_of_subset_left (ungrown.live kind).subset
      (List.disjoint_of_subset_right (ungrown.live other).subset (apart kind other different))

theorem Coherent.run_apart (coherent : bus.Coherent) (apart : bus.Apart) (steps : List BusStep) :
    (bus.run steps).Apart := by
  induction steps generalizing bus with
  | nil => exact apart
  | cons step later ih =>
    exact ih (coherent.step step) ((coherent.issues step).apart coherent apart)

end Bus

/-! ## Runs -/

/-- A step of a run and the bus that it is taken on. -/
structure TakenStep where
  bus : Bus
  step : BusStep

namespace TakenStep

def after (taken : TakenStep) : Bus := taken.bus.step taken.step

def creates? (taken : TakenStep) : Option AddressKind := taken.step.creates? taken.bus

def creates (taken : TakenStep) : Bool := taken.creates?.isSome

def handsOut? (taken : TakenStep) : Option Address := taken.step.handsOut? taken.bus

variable {bus : Bus} {step : BusStep} {kind : AddressKind}

theorem creates_of_some (created : step.creates? bus = some kind) : creates { bus, step } := by
  rw [creates, creates?, created]
  rfl

theorem not_creates_of_none (created : step.creates? bus = none) : ¬ creates { bus, step } := by
  rw [creates, creates?, created]
  exact Bool.false_ne_true

end TakenStep

namespace Bus

variable {bus : Bus}

/-- The steps of a run, each with the bus that it is taken on. -/
def trail (bus : Bus) : List BusStep → List TakenStep
  | [] => []
  | step :: later => { bus, step } :: (bus.step step).trail later

/-- How many addresses a run hands out. -/
def issued (bus : Bus) (steps : List BusStep) : Nat := (bus.trail steps).countP TakenStep.creates

theorem Coherent.trail_issues (coherent : bus.Coherent) (steps : List BusStep) :
    ∀ taken ∈ bus.trail steps, taken.bus.Issues taken.step := by
  induction steps generalizing bus with
  | nil => exact List.forall_mem_nil _
  | cons step later ih =>
    exact List.forall_mem_cons.mpr ⟨coherent.issues step, ih (coherent.step step)⟩

/-- To count on from the grown bus is to count one further from the bus before. -/
theorem Grown.ahead {after : Bus} {kind : AddressKind} (grown : bus.Grown kind after)
    (count : Nat) :
    after.nextAddress + addressStride * count = bus.nextAddress + addressStride * (count + 1) := by
  rw [grown.next, Nat.mul_succ, Nat.add_comm (addressStride * count), Nat.add_assoc]

/-- The counter tells how many addresses were handed out. -/
theorem Coherent.run_issued (coherent : bus.Coherent) (steps : List BusStep) :
    (bus.run steps).nextAddress = bus.nextAddress + addressStride * bus.issued steps := by
  induction steps generalizing bus with
  | nil => rfl
  | cons step later ih =>
    have rest := ih (coherent.step step)
    have unfolded : bus.run (step :: later) = (bus.step step).run later := rfl
    rw [unfolded, rest, issued, issued, trail]
    cases coherent.issues step with
    | hands kind created _ grown =>
      rw [List.countP_cons_of_pos (TakenStep.creates_of_some created)]
      exact grown.ahead _
    | idle created _ ungrown =>
      rw [List.countP_cons_of_neg (TakenStep.not_creates_of_none created), ungrown.next]

/-- The creating steps hand out one address after the other. -/
theorem Coherent.created_handsOut (coherent : bus.Coherent) (steps : List BusStep) {place : Nat}
    {taken : TakenStep}
    (found : ((bus.trail steps).filter TakenStep.creates)[place]? = some taken) :
    taken.handsOut? = some (bus.nextAddress + addressStride * place) := by
  induction steps generalizing bus place with
  | nil => exact nomatch found
  | cons step later ih =>
    rw [trail] at found
    cases coherent.issues step with
    | hands kind created handed grown =>
      rw [List.filter_cons_of_pos (TakenStep.creates_of_some created)] at found
      cases place with
      | zero =>
        obtain rfl := Option.some.inj found
        exact handed
      | succ place =>
        exact (ih (coherent.step step) found).trans (congrArg some (grown.ahead place))
    | idle created _ ungrown =>
      rw [List.filter_cons_of_neg (TakenStep.not_creates_of_none created)] at found
      rw [ih (coherent.step step) found, ungrown.next]

end Bus

end UsbHost
