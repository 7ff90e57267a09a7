import UsbHost.Session.Resource
import UsbHost.Bus.Step
import UsbHost.Slots

/-!
# Sessions

A session is a world together with the resources that a client holds in it under names, and the
raw memory that the client has obtained and that nobody owns. A client acts on a session step by
step; every step answers a value or is refused.
-/

set_option autoImplicit false

namespace UsbHost

variable [NativeApi]

structure Session where
  /-- The texts and policies of resources that are not derived from another one. -/
  library : Library
  world : World := {}
  resources : Resources := []
  heldArrays : Slots DeviceArray := []
  heldRecords : Slots ConfigPointer := []

inductive Answer where
  | done
  | flag (value : Bool)
  | count (value : Nat)
  | integer (value : Int)
  | text (value : String)
  | texts (values : List String)
  | address (raw : Option Address)
  | addresses (raws : List Address)
  | bytes (values : List UInt8)
  | integers (values : List Int)
  | arguments (values : List (Option Int))
  | context (context : Context)
  | list (list : DeviceList)
  | device (device : Device)
  /-- A handle, with the interfaces that the bus holds as claimed through it. -/
  | handle (handle : Handle) (claims : List Int)
  | descriptor (descriptor : ConfigDescriptor)
  | deviceDescriptor (descriptor : DeviceDescriptor)
  | native (answer : NativeAnswer)

inductive Refusal where
  /-- The step names a slot that is empty; nothing happened. -/
  | noSlot
  | usb (error : UsbError)
  | setup (error : SetupError)
  | outOfRange (access : OutOfRange)
  /-- The index operator was used behind the end of the entries. -/
  | indexOutOfBounds (length index : Nat)

/-- How a step ended. A step on the claims of a handle also shows the claims after it. -/
structure Outcome where
  result : Except Refusal Answer
  claimed : Option (List UInt8) := none

namespace Outcome

def answer (answer : Answer) : Outcome := { result := .ok answer }

def refused (refusal : Refusal) : Outcome := { result := .error refusal }

end Outcome

namespace Session

/-- The end of a step: how it ended, and the session afterwards. -/
abbrev Ended := Outcome × Session

/-- Answers without changing anything. -/
def answer (session : Session) (answer : Answer) : Ended := (.answer answer, session)

def noSlot (session : Session) : Ended := (.refused .noSlot, session)

/-- Continues with what a slot holds, if it holds anything. -/
def withSlot {α : Type} (session : Session) (slot : Option α) (next : α → Ended) : Ended :=
  match slot with
  | some value => next value
  | none => session.noSlot

/-- Puts a resource under a name. What stood there is dropped afterwards. -/
def store (session : Session) (name : String) (resource : Resource) : Session :=
  let old := session.resources.find? resource.kind name
  let session := { session with resources := session.resources.put name resource }
  match old with
  | some old => { session with world := old.drop session.world }
  | none => session

/-- Changes the resource under a name; nothing is dropped. -/
def update (session : Session) (name : String) (resource : Resource) (world : World) : Session :=
  { session with resources := session.resources.put name resource, world }

/-- Runs an operation and continues with its value, or refuses the step with what it raised. -/
def perform {α : Type} (session : Session) (operation : Usb α) (next : α → Session → Ended) :
    Ended :=
  match operation session.world with
  | .ok value world => next value { session with world }
  | .error error world => (.refused (.usb error), { session with world })

/-- Runs an operation that cannot fail and continues with its value. -/
def run {α : Type} (session : Session) (operation : World → α × World)
    (next : α → Session → Ended) : Ended :=
  let (value, world) := operation session.world
  next value { session with world }

def storing (name : String) (resource : Resource) (session : Session) : Ended :=
  (session.store name resource).answer .done

/-- Drops every resource that is left. Raw memory that nobody owns is not freed. -/
def teardown (session : Session) : Session :=
  { session with
    world := session.resources.teardownOrder.foldl (fun world resource => resource.drop world)
      session.world
    resources := [] }

end Session

end UsbHost
