import UsbHost.Session.Contexts
import UsbHost.Session.Controls
import UsbHost.Session.Descriptors
import UsbHost.Session.Devices
import UsbHost.Session.Handles
import UsbHost.Session.Lists
import UsbHost.Session.Natives

/-!
# Runs of a session

A run performs client steps one after the other. For every step it reports how the step ended and
what it added to the journal, the misuse record and the log, and how many native resources are
alive afterwards.
-/

set_option autoImplicit false

namespace UsbHost

variable [NativeApi]

inductive Step where
  | control (step : ControlStep)
  | context (step : ContextStep)
  | list (step : ListStep)
  | device (step : DeviceStep)
  | handle (step : HandleStep)
  | descriptor (step : DescriptorStep)
  | native (step : NativeStep)
  /-- Ends a resource. -/
  | drop (kind : ResourceKind) (name : String)
  /-- Gives a resource another name; what stood there is dropped. -/
  | move (kind : ResourceKind) (name target : String)
  /-- Shows a resource, on one line or over several. -/
  | inspect (kind : ResourceKind) (name : String) (pretty : Bool)
  deriving DecidableEq, Repr

/-- What a step added, and what is alive after it. -/
structure StepReport where
  calls : List JournalEntry
  misuse : List Misuse
  log : Log
  contexts : Nat
  handles : Nat
  lists : Nat
  descriptors : Nat
  /-- The reference count of every attached device, in the order of attachment. -/
  references : List Nat

def World.changes (before after : World) : StepReport where
  calls := after.bus.journal.drop before.bus.journal.length
  misuse := after.bus.misuse.drop before.bus.misuse.length
  log := after.log.drop before.log.length
  contexts := after.bus.contexts.length
  handles := after.bus.handles.length
  lists := after.bus.lists.length
  descriptors := after.bus.descriptors.length
  references := after.bus.devices.map AttachedDevice.references

namespace Session

def step (session : Session) (step : Step) : Ended :=
  match step with
  | .control step => step.perform session
  | .context step => step.perform session
  | .list step => step.perform session
  | .device step => step.perform session
  | .handle step => step.perform session
  | .descriptor step => step.perform session
  | .native step => step.perform session
  | .drop kind name =>
    session.withSlot (session.resources.find? kind name) fun resource =>
      { session with
        resources := session.resources.remove kind name
        world := resource.drop session.world }.answer .done
  | .move kind name target =>
    session.withSlot (session.resources.find? kind name) fun resource =>
      { session with resources := session.resources.remove kind name }.storing target resource
  | .inspect kind name pretty =>
    session.withSlot (session.resources.find? kind name) fun resource =>
      session.answer (.text (resource.inspect.render pretty))

def steps (session : Session) (steps : List Step) : Session :=
  steps.foldl (fun session step => (session.step step).2) session

/-- How every step of a run ended, with its report, and the session after the run. -/
def trace (session : Session) : List Step → List (Outcome × StepReport) × Session
  | [] => ([], session)
  | first :: rest =>
    let (outcome, after) := session.step first
    let (reports, last) := after.trace rest
    ((outcome, session.world.changes after.world) :: reports, last)

end Session

end UsbHost
