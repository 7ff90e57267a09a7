import UsbHost.Proofs.Views

/-!
# Runs under other policies

How failures are reported does not change what happens. Two runs of the same steps under policies
that agree on whether an ordinary call raises leave the same bus, resources that differ in their
policies only, and logs that differ in the levels of failures only; every step ends in the same
way. The levels, and whether the cleanup and the query policy raise, are of no consequence.
-/

set_option autoImplicit false

namespace UsbHost

/-- The event without the level at which a failure is reported. -/
def Event.unlevelled : Event → Event
  | note level notice => note level notice
  | failure _ site function code description => failure .error site function code description

/-- Everything without policies and without the levels of failures. -/
def View.unreported : View where
  library library := { library with policies := {} }
  event := Event.unlevelled

def Step.readsLevels : Step → Bool
  | .control (.logCount _) | .control (.logMessages _) => true
  | _ => false

/-- The same texts, and policies that agree on whether an ordinary call raises. -/
def Likeness.reporting : Likeness where
  library left right :=
    right.describe = left.describe ∧ right.policies.call.raise = left.policies.call.raise
  event left right := right.unlevelled = left.unlevelled
  raise := And.right
  -- Policies that a step brings along are the same in both runs.
  settle := fun ⟨texts, _⟩ _ => ⟨texts, rfl⟩
  failure := by
    rintro left right ⟨texts, -⟩ purpose site function code
    rw [Library.failureEvent, Library.failureEvent, texts]
    rfl
  note _ _ := rfl

theorem Likeness.reporting_shows : Likeness.reporting.Shows .unreported .unreported where
  library := fun libraries => congrArg (fun describe => ({ describe } : Library)) libraries.1
  event := id

theorem Likeness.Refused.same {calls : List JournalEntry} {error error' : UsbError}
    (refused : Likeness.reporting.Refused calls error error') : error' = error := by
  cases refused with
  | own => rfl
  | native libraries =>
    unfold Library.failure
    rw [libraries.1]

theorem Session.EndAlike.unreported {start : Session} {ended ended' : Session.Ended}
    (ends : Session.EndAlike .reporting start ended ended') :
    View.unreported.outcome ended'.1 = View.unreported.outcome ended.1 := by
  unfold View.outcome
  cases ends with
  | answered _ _ alike =>
    dsimp only [Except.map]
    rw [Likeness.reporting_shows.answer alike]
  | refused _ _ _ _ alike =>
    cases alike with
    | usb refused | setup refused => rw [refused.same]
    | noSlot | settings | outOfRange | indexOutOfBounds => rfl

namespace Session

variable {one other : Session}

theorem step_unreported (alike : one.Like .reporting other) {step : Step}
    (unread : step.readsLevels = false) :
    View.unreported.outcome (other.step step).1 = View.unreported.outcome (one.step step).1 := by
  cases reads : step.readsReports with
  | false => exact (step_like alike step reads).unreported
  | true =>
    obtain ⟨code, rfl⟩ | ⟨level, rfl⟩ | ⟨level, rfl⟩ := step.reads_cases reads
    · exact congrArg (fun text => View.unreported.outcome (.answer (.text text)))
        (congrFun alike.library.1 code)
    · cases unread
    · cases unread

/-- Policies that agree on whether an ordinary call raises lead through the same run: the sessions
are equal but for policies and the levels of failures, and so is how any further step ends. -/
theorem run_indifferent (describe : Int → String) (policies policies' : Policies)
    (raise : policies'.call.raise = policies.call.raise) (bus : Bus) (steps : List Step) :
    let one : Session := { library := { describe, policies }, world := { bus } }
    let other : Session := { library := { describe, policies := policies' }, world := { bus } }
    View.unreported.session (other.steps steps) = View.unreported.session (one.steps steps) ∧
      ∀ step, step.readsLevels = false →
        View.unreported.outcome ((other.steps steps).step step).1 =
          View.unreported.outcome ((one.steps steps).step step).1 := by
  intro one other
  have start : one.Like .reporting other := ⟨⟨rfl, raise⟩, ⟨rfl, .nil⟩, .nil, rfl, rfl⟩
  have alike := steps_like start steps
  exact ⟨Likeness.reporting_shows.session alike, fun step => step_unreported alike⟩

/-- A handle is closed although an interface of it cannot be released, and a query fails. -/
def failingClose : List Step :=
  [.control (.attach {}), .device (.adopt "device" 4096 none),
    .device (.openHandle "device" "handle"), .handle (.claim "handle" 0),
    .control (.failReleaseOf 0 (-4)), .control (.fail "libusb_get_configuration" (-1)),
    .handle (.configurationOrDefault "handle"), .handle (.close "handle")]

/-- Policies that raise everywhere, and report every failure at another level than the defaults. -/
def loudPolicies : Policies where
  call := { level := .warn, raise := true }
  cleanup := { level := .info, raise := true }
  query := { level := .trace, raise := true }

theorem run_indifferent_failingClose :
    let one : Session := { library := {}, world := {} }
    let other : Session := { library := { policies := loudPolicies }, world := {} }
    (View.unreported.session (other.steps failingClose) =
        View.unreported.session (one.steps failingClose) ∧
      ∀ step, step.readsLevels = false →
        View.unreported.outcome ((other.steps failingClose).step step).1 =
          View.unreported.outcome ((one.steps failingClose).step step).1) ∧
      ((one.steps failingClose).world.log.filter Event.isFailure).map Event.level =
        [.error, .error] ∧
      ((other.steps failingClose).world.log.filter Event.isFailure).map Event.level =
        [.trace, .info] :=
  ⟨run_indifferent describeCode {} loudPolicies rfl {} failingClose, by decide, by decide⟩

end Session

end UsbHost
