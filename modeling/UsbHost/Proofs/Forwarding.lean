import UsbHost.Linked
import UsbHost.Proofs.FailureLog
import UsbHost.Proofs.Views

/-!
# Runs over the linked library

Suppose that every function of the linked library calls the function of the bus of the same name.
Then a session over the linked library runs as one over the bus does: it leaves the same bus, and
every step ends in the same way, whatever the texts of the linked library are. Only where the bus
words the failure of a native call does the linked library use its own words, and the words of the
system's library differ from those only for codes that the table of kinds does not list.
-/

set_option autoImplicit false

namespace UsbHost

/-! ## In other words -/

def Event.reworded (describe : Int → String) : Event → Event
  | note level notice => note level notice
  | failure level site function code _ => failure level site function code (describe code)

def Event.code? : Event → Option Int
  | note _ _ => none
  | failure _ _ _ code _ => some code

/-- Everything in the words of `describe`. -/
def View.worded (describe : Int → String) : View where
  library library := { library with describe }
  event := Event.reworded describe

def failedLast (calls : List JournalEntry) : Bool :=
  ((calls.getLast?.bind JournalEntry.returned).bind failureCode).isSome

/-- The failure in the words of `describe` if it is that of the last of `calls`; a refusal of the
library's own keeps its words. -/
def UsbError.reworded (describe : Int → String) (calls : List JournalEntry) (error : UsbError) :
    UsbError :=
  if failedLast calls then { error with message := describe error.code } else error

def Refusal.reworded (describe : Int → String) (calls : List JournalEntry) : Refusal → Refusal
  | usb error => usb (error.reworded describe calls)
  | setup (.usb error) => setup (.usb (error.reworded describe calls))
  | refusal => refusal

def Refusal.error? : Refusal → Option UsbError
  | usb error => some error
  | setup (.usb error) => some error
  | _ => none

def Outcome.reworded (describe : Int → String) (calls : List JournalEntry) (outcome : Outcome) :
    Outcome where
  result := match outcome.result with
    | .ok answer => .ok ((View.worded describe).answer answer)
    | .error refusal => .error (refusal.reworded describe calls)
  claimed := outcome.claimed

namespace Session

/-- How a step ends if the texts are those of `describe`. -/
def outcomeIn (describe : Int → String) (session : Session) : Step → Outcome
  | .native (.describe code) => .answer (.text (describe code))
  | .control (.logMessages level) =>
    .answer (.texts (Log.messages (session.world.log.map (Event.reworded describe)) level))
  | step => (session.step step).1.reworded describe (session.made step)

end Session

/-! ## Rewording as a likeness -/

/-- The left side is in the words of the bus, and the right side is the same in the words of
`describe`. -/
def Likeness.rewording (describe : Int → String) : Likeness where
  library left right := left.describe = describeCode ∧ right = (View.worded describe).library left
  event left right := left.reworded describeCode = left ∧ right = left.reworded describe
  raise := by
    rintro left right ⟨-, rfl⟩
    rfl
  settle := by
    rintro left right ⟨worded, rfl⟩ policies
    exact ⟨worded, rfl⟩
  failure := by
    rintro left right ⟨worded, rfl⟩ purpose site function code
    refine ⟨?_, by cases purpose <;> rfl⟩
    rw [Library.failureEvent, Event.reworded, worded]
  note _ _ := ⟨rfl, rfl⟩

variable {describe : Int → String}

theorem Likeness.rewording_shows (describe : Int → String) :
    (Likeness.rewording describe).Shows (View.worded describe) .plain where
  library := fun ⟨_, same⟩ => same
  event := fun ⟨_, same⟩ => same

theorem failedLast_of_own {calls : List JournalEntry}
    (own : ∀ entry ∈ calls, entry.returned = none) : failedLast calls = false := by
  unfold failedLast
  cases last : calls.getLast? with
  | none => rfl
  | some entry =>
    rw [Option.bind_some, own entry (List.mem_of_getLast? last)]
    rfl

theorem Likeness.Refused.reworded {calls : List JournalEntry} {error error' : UsbError}
    (refused : (Likeness.rewording describe).Refused calls error error') :
    error' = error.reworded describe calls := by
  unfold UsbError.reworded
  cases refused with
  | own kind own => rw [failedLast_of_own own, if_neg Bool.false_ne_true]
  | native libraries last returned fails =>
    obtain ⟨-, rfl⟩ := libraries
    -- A failure that was raised is the one of the call made last.
    have failed : failedLast calls := by
      unfold failedLast
      rw [last, Option.bind_some, returned, Option.bind_some, fails]
      rfl
    rw [if_pos failed]
    rfl

theorem Likeness.Refused.worded {calls : List JournalEntry} {error error' : UsbError}
    (refused : (Likeness.rewording describe).Refused calls error error') :
    error.message = describeCode error.code := by
  cases refused with
  | own kind own => rfl
  | @native left _ _ _ code libraries last returned fails => exact congrFun libraries.1 code

theorem Session.EndAlike.reworded {start : Session} {ended ended' : Session.Ended}
    (ends : Session.EndAlike (.rewording describe) start ended ended') :
    ended'.1 = ended.1.reworded describe (start.world.changes ended.2.world).calls := by
  have shows := Likeness.rewording_shows describe
  cases ends with
  | @answered answer answer' _ _ claimed _ alike =>
    have same := shows.answer alike
    rw [View.plain_answer] at same
    rw [same]
    rfl
  | @refused refusal refusal' after _ claimed calls _ journal alike =>
    have made : (start.world.changes after.world).calls = calls := by
      unfold World.changes
      rw [journal, List.drop_left]
    rw [made]
    have same : refusal' = refusal.reworded describe calls := by
      cases alike with
      | usb refused => rw [refused.reworded]; rfl
      | setup refused => rw [refused.reworded]; rfl
      | noSlot | settings | outOfRange | indexOutOfBounds => rfl
    rw [same]
    rfl

theorem Log.count_reworded (describe : Int → String) (log : Log) (level : Level) :
    Log.count (log.map (Event.reworded describe)) level = log.count level := by
  unfold Log.count Log.atLevel
  rw [List.filter_map, List.length_map]
  congr 2
  funext event
  cases event <;> rfl

namespace Session

variable {one other : Session}

theorem Like.reworded (alike : one.Like (.rewording describe) other) :
    other = (View.worded describe).session one := by
  have same := (Likeness.rewording_shows describe).session alike
  rwa [View.plain_session] at same

theorem Like.events_worded (alike : one.Like (.rewording describe) other) :
    ∀ event ∈ one.world.log, event.reworded describeCode = event := by
  have log := alike.worlds.log
  generalize one.world.log = events at log
  generalize other.world.log = others at log
  induction log with
  | nil => exact List.forall_mem_nil _
  | cons related _ ih => exact List.forall_mem_cons.mpr ⟨related.1, ih⟩

theorem outcomeIn_of_unread {step : Step} (unread : step.readsReports = false) :
    one.outcomeIn describe step = (one.step step).1.reworded describe (one.made step) := by
  unfold outcomeIn
  split
  · cases unread
  · cases unread
  · rfl

/-- A step of the session in other words ends as the one in the words of the bus foretells. -/
theorem step_outcomeIn (alike : one.Like (.rewording describe) other) (step : Step) :
    (other.step step).1 = one.outcomeIn describe step := by
  cases reads : step.readsReports with
  | false =>
    rw [outcomeIn_of_unread reads]
    exact (step_like alike step reads).reworded
  | true =>
    rw [alike.reworded]
    obtain ⟨code, rfl⟩ | ⟨level, rfl⟩ | ⟨level, rfl⟩ := step.reads_cases reads
    · rfl
    · exact congrArg (fun count => Outcome.answer (.count count))
        (Log.count_reworded describe one.world.log level)
    · rfl

/-- Whatever a session in the words of the bus refuses a step with is in these words. -/
theorem step_error_worded (alike : one.Like (.rewording describe) other) {step : Step}
    {refusal : Refusal} {error : UsbError} (refused : (one.step step).1.result = .error refusal)
    (raised : refusal.error? = some error) : error.message = describeCode error.code := by
  cases reads : step.readsReports with
  | true =>
    obtain ⟨code, rfl⟩ | ⟨level, rfl⟩ | ⟨level, rfl⟩ := step.reads_cases reads <;> cases refused
  | false =>
    have ends := step_like alike step reads
    generalize one.step step = ended at ends refused
    generalize other.step step = ended' at ends
    cases ends with
    | answered => cases refused
    | refused _ calls _ _ related =>
      cases refused
      cases related with
      | usb refused | setup refused =>
        cases raised
        exact refused.worded
      | noSlot | settings | outOfRange | indexOutOfBounds => cases raised

end Session

/-! ## The words of the system's library -/

/-- A code outside -1 to -12 and -99. -/
def Unlisted (code : Int) : Prop :=
  ¬ ((-12 ≤ code ∧ code ≤ -1) ∨ code = -99)

/-- Texts that word the listed codes as the bus does. -/
def WordsListed (describe : Int → String) : Prop :=
  ∀ code, ¬ Unlisted code → describe code = describeCode code

theorem isListedCode_of {code : Int} (listed : ¬ Unlisted code) : isListedCode code = true := by
  unfold Unlisted at listed
  simp only [isListedCode, ErrorKind.all, ErrorKind.code, List.any_cons, List.any_nil,
    Bool.or_false, Bool.or_eq_true, beq_iff_eq]
  omega

/-- The system's library is such a library. -/
theorem systemDescription_wordsListed : WordsListed systemDescription := by
  intro code listed
  unfold systemDescription describeCode
  rw [if_pos (isListedCode_of listed)]

theorem WordsListed.unlisted (words : WordsListed describe) {code : Int}
    (differs : describe code ≠ describeCode code) : Unlisted code := by
  by_contra listed
  exact differs (words code listed)

theorem Event.unlisted_of_differs (words : WordsListed describe) {event : Event}
    (worded : event.reworded describeCode = event) (differs : event.reworded describe ≠ event) :
    ∃ code, event.code? = some code ∧ Unlisted code := by
  cases event with
  | note level notice => exact absurd rfl differs
  | failure level site function code description =>
    refine ⟨code, rfl, words.unlisted fun same => differs ?_⟩
    rw [Event.reworded, same]
    exact worded

theorem UsbError.unlisted_of_differs (words : WordsListed describe) {error : UsbError}
    {calls : List JournalEntry} (worded : error.message = describeCode error.code)
    (differs : error.reworded describe calls ≠ error) : Unlisted error.code := by
  refine words.unlisted fun same => differs ?_
  unfold UsbError.reworded
  split
  · rw [same, ← worded]
  · rfl

/-! ## Runs -/

namespace LinkedLibrary

variable {linked : LinkedLibrary}

/-- Every function of the linked library calls the function of the bus of the same name. -/
structure CallsThrough (linked : LinkedLibrary) : Prop where
  initLibrary : ∀ bus, linked.initLibrary bus = bus.initLibrary
  exitLibrary : ∀ context bus, linked.exitLibrary context bus = bus.exitLibrary context
  getDeviceList : ∀ context bus, linked.getDeviceList context bus = bus.getDeviceList
  freeDeviceList : ∀ list unref bus,
    linked.freeDeviceList list unref bus = bus.freeDeviceList list unref
  refDevice : ∀ device bus, linked.refDevice device bus = (device, bus.refDevice device)
  unrefDevice : ∀ device bus, linked.unrefDevice device bus = bus.unrefDevice device
  openDevice : ∀ device bus, linked.openDevice device bus = bus.openDevice device
  wrapSystemDevice : ∀ context systemHandle bus,
    linked.wrapSystemDevice context systemHandle bus = bus.wrapSystemDevice systemHandle
  closeHandle : ∀ handle bus, linked.closeHandle handle bus = bus.closeHandle handle
  getDevice : ∀ handle bus, linked.getDevice handle bus = bus.getDevice handle
  getDeviceDescriptor : ∀ device bus,
    linked.getDeviceDescriptor device bus = bus.getDeviceDescriptor device
  getConfigDescriptor : ∀ device index bus,
    linked.getConfigDescriptor device index bus = bus.getConfigDescriptor device index
  freeConfigDescriptor : ∀ descriptor bus,
    linked.freeConfigDescriptor descriptor bus = bus.freeConfigDescriptor descriptor
  claimInterface : ∀ handle interface bus,
    linked.claimInterface handle interface bus = bus.claimInterface handle interface
  releaseInterface : ∀ handle interface bus,
    linked.releaseInterface handle interface bus = bus.releaseInterface handle interface
  setConfiguration : ∀ handle value bus,
    linked.setConfiguration handle value bus = bus.setConfiguration handle value
  getConfiguration : ∀ handle bus, linked.getConfiguration handle bus = bus.getConfiguration handle
  setAutoDetach : ∀ handle enable bus,
    linked.setAutoDetach handle enable bus = bus.setAutoDetach handle enable
  getBusNumber : ∀ device bus, linked.getBusNumber device bus = bus.getBusNumber device
  getDeviceAddress : ∀ device bus, linked.getDeviceAddress device bus = bus.getDeviceAddress device
  getPortNumbers : ∀ device capacity bus,
    linked.getPortNumbers device capacity bus = bus.getPortNumbers device capacity

theorem CallsThrough.api (through : linked.CallsThrough) : linked.api = Bus.api := by
  unfold LinkedLibrary.api Bus.api
  simp only [through.initLibrary, through.exitLibrary, through.getDeviceList,
    through.freeDeviceList, through.refDevice, through.unrefDevice, through.openDevice,
    through.wrapSystemDevice, through.closeHandle, through.getDevice, through.getDeviceDescriptor,
    through.getConfigDescriptor, through.freeConfigDescriptor, through.claimInterface,
    through.releaseInterface, through.setConfiguration, through.getConfiguration,
    through.setAutoDetach, through.getBusNumber, through.getDeviceAddress, through.getPortNumbers]

/-- What a run over the linked library has in common with the run of the same steps over the bus:
`real` and `mock` are the sessions after it. -/
structure Mirrors (linked : LinkedLibrary) (mock real : Session) : Prop where
  session : real = (View.worded linked.strerror).session mock
  outcome : ∀ step, (linked.step real step).1 = mock.outcomeIn linked.strerror step
  /-- Over the bus, failures are worded by the bus. -/
  wordedEvents : ∀ event ∈ mock.world.log, event.reworded describeCode = event
  wordedErrors : ∀ step refusal error, (mock.step step).1.result = .error refusal →
    refusal.error? = some error → error.message = describeCode error.code
  /-- Where the texts agree on the listed codes, as those of the system's library do, the runs differ
  for unlisted codes only. -/
  systemEvents : WordsListed linked.strerror → ∀ event ∈ mock.world.log,
    event.reworded linked.strerror ≠ event → ∃ code, event.code? = some code ∧ Unlisted code
  systemErrors : WordsListed linked.strerror → ∀ step refusal error,
    (mock.step step).1.result = .error refusal → refusal.error? = some error →
      error.reworded linked.strerror (mock.made step) ≠ error → Unlisted error.code
  systemTexts : WordsListed linked.strerror → ∀ code,
    linked.strerror code ≠ describeCode code → Unlisted code

theorem mirrors_of_like (through : linked.CallsThrough) {mock real : Session}
    (alike : mock.Like (.rewording linked.strerror) real) : linked.Mirrors mock real := by
  have worded := alike.events_worded
  have errors : ∀ step refusal error, (mock.step step).1.result = .error refusal →
      refusal.error? = some error → error.message = describeCode error.code :=
    fun _ _ _ refused raised => Session.step_error_worded alike refused raised
  exact
    { session := alike.reworded
      outcome := fun step => by
        unfold LinkedLibrary.step
        rw [through.api]
        exact Session.step_outcomeIn alike step
      wordedEvents := worded
      wordedErrors := errors
      systemEvents := fun words event member differs =>
        Event.unlisted_of_differs words (worded event member) differs
      systemErrors := fun words step refusal error refused raised differs =>
        UsbError.unlisted_of_differs words (errors step refusal error refused raised) differs
      systemTexts := fun words _ differs => words.unlisted differs }

/-- A run over a linked library that calls the bus mirrors the run over the bus, whatever its
texts are. -/
theorem run_forwarded (linked : LinkedLibrary) (through : linked.CallsThrough)
    (policies : Policies) (bus : Bus) (steps : List Step) :
    (∀ call bus, linked.perform call bus = call.perform bus) ∧
      linked.Mirrors (Session.steps { library := { policies }, world := { bus } } steps)
        (linked.steps { library := linked.library policies, world := { bus } } steps) := by
  refine ⟨fun call bus => ?_, mirrors_of_like through ?_⟩
  · unfold perform
    rw [through.api]
  · unfold LinkedLibrary.steps
    rw [through.api]
    have start : Session.Like (.rewording linked.strerror)
        { library := { policies }, world := { bus } }
        { library := linked.library policies, world := { bus } } :=
      ⟨⟨rfl, rfl⟩, ⟨rfl, .nil⟩, .nil, rfl, rfl⟩
    exact Session.steps_like start steps

def ofBus (strerror : Int → String) : LinkedLibrary where
  strerror
  initLibrary bus := bus.initLibrary
  exitLibrary context bus := bus.exitLibrary context
  getDeviceList _ bus := bus.getDeviceList
  freeDeviceList list unref bus := bus.freeDeviceList list unref
  refDevice device bus := (device, bus.refDevice device)
  unrefDevice device bus := bus.unrefDevice device
  openDevice device bus := bus.openDevice device
  wrapSystemDevice _ systemHandle bus := bus.wrapSystemDevice systemHandle
  closeHandle handle bus := bus.closeHandle handle
  getDevice handle bus := bus.getDevice handle
  getDeviceDescriptor device bus := bus.getDeviceDescriptor device
  getConfigDescriptor device index bus := bus.getConfigDescriptor device index
  freeConfigDescriptor descriptor bus := bus.freeConfigDescriptor descriptor
  claimInterface handle interface bus := bus.claimInterface handle interface
  releaseInterface handle interface bus := bus.releaseInterface handle interface
  setConfiguration handle value bus := bus.setConfiguration handle value
  getConfiguration handle bus := bus.getConfiguration handle
  setAutoDetach handle enable bus := bus.setAutoDetach handle enable
  getBusNumber device bus := bus.getBusNumber device
  getDeviceAddress device bus := bus.getDeviceAddress device
  getPortNumbers device capacity bus := bus.getPortNumbers device capacity

theorem ofBus_callsThrough (strerror : Int → String) : (ofBus strerror).CallsThrough := by
  constructor <;> intros <;> rfl

/-- Two failures to make a context, the first with a code that the table of kinds does not list. -/
def failedStarts : List Step :=
  [.control (.fail "libusb_init" (-42)), .context (.start "main" .session),
    .control (.fail "libusb_init" (-3)), .context (.start "main" .session)]

theorem run_forwarded_failedStarts :
    (ofBus systemDescription).CallsThrough ∧
      WordsListed (ofBus systemDescription).strerror ∧
      (∀ call bus, (ofBus systemDescription).perform call bus = call.perform bus) ∧
      (ofBus systemDescription).Mirrors
        (Session.steps { library := {}, world := {} } failedStarts)
        ((ofBus systemDescription).steps
          { library := (ofBus systemDescription).library {}, world := {} } failedStarts) ∧
      ((ofBus systemDescription).steps
          { library := (ofBus systemDescription).library {}, world := {} }
          failedStarts).world.log.map Event.message =
        ["UsbContext::new failed libusb_init(): Other error",
          "UsbContext::new failed libusb_init(): Access denied (insufficient permissions)"] := by
  have through := ofBus_callsThrough systemDescription
  obtain ⟨calls, mirrors⟩ :=
    run_forwarded (ofBus systemDescription) through {} {} failedStarts
  exact ⟨through, systemDescription_wordsListed, calls, mirrors, by decide⟩

end LinkedLibrary

end UsbHost
