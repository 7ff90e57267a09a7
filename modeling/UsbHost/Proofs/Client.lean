import UsbHost.Proofs.Title
import UsbHost.Session.Run

/-!
# Clients that keep to the rules

A session does what any caller of the library may do. A client is a session together with a ledger
of what the client has done past its resources: which titles it holds in its own hands, and which
of the bus's own references it gave back. The rules say that a client adopts or gives back only a
title that it holds, names only attached devices, and gives back the bus's own reference to a
device at most once.
-/

set_option autoImplicit false

namespace UsbHost

inductive ClaimEvent where
  | claimed (handle : Address) (interface : UInt8)
  | released (handle : Address) (interface : UInt8)
  deriving DecidableEq, Repr

/-- The claims through `handle` after an event, from those before it. -/
def ClaimEvent.apply (handle : Address) (claims : List UInt8) : ClaimEvent → List UInt8
  | claimed raw interface =>
    if raw = handle ∧ interface ∉ claims then claims ++ [interface] else claims
  | released raw interface => if raw = handle then claims.erase interface else claims

/-- What a client has done that its session does not remember. -/
structure Ledger where
  /-- The titles that came out of a release and were neither adopted nor given back since. -/
  pending : List Title := []
  /-- The devices whose first reference, that of the bus itself, was given back. -/
  returned : List Address := []
  /-- The native handles that ever came out of a release. -/
  released : List Address := []
  /-- The successful calls on claims, oldest first. -/
  events : List ClaimEvent := []
  deriving DecidableEq, Repr

/-- The claims through a native handle as the history of successful calls has them. -/
def Ledger.claims (ledger : Ledger) (handle : Address) : List UInt8 :=
  ledger.events.foldl (ClaimEvent.apply handle) []

/-! ## What a step asks of the client -/

/-- The address of the device that a step is to take a reference to. -/
def Step.namedDevice? : Step → Option Address
  | .device (.adopt _ raw _) => raw.owned?
  | .device (.reset _ raw) => raw.owned?
  | _ => none

def Step.injected? : Step → Option Int
  | .control (.fail _ code) => some code
  | .control (.failReleaseOf _ code) => some code
  | _ => none

/-- Whether a step calls the native library past all resources. -/
def Step.isNative : Step → Bool
  | .native (.describe _) => false
  | .native _ => true
  | _ => false

namespace Session

/-- The title that a step takes out of the client's hands. -/
def takes? (session : Session) : Step → Option Title
  | .context (.adopt _ raw) => raw.owned?.map .context
  | .context (.reset name raw) =>
    (session.resources.context? name).bind fun _ => raw.owned?.map .context
  | .handle (.adopt _ raw) => raw.owned?.map .handle
  | .handle (.reset name raw) =>
    (session.resources.handle? name).bind fun _ => raw.owned?.map .handle
  | .descriptor (.adopt _ (some held)) =>
    (session.heldRecords.get? held).map fun pointer => .record pointer.ref
  | _ => none

/-- The title that a step puts into the client's hands. -/
def gives? (session : Session) : Step → Option Title
  | .context (.release name) =>
    (session.resources.context? name).bind fun context => (Resource.context context).title?
  | .device (.release name) =>
    (session.resources.device? name).bind fun device => (Resource.device device).title?
  | .handle (.release name) =>
    (session.resources.handle? name).bind fun handle => (Resource.handle handle).title?
  | .descriptor (.release name _) =>
    (session.resources.descriptor? name).bind fun descriptor =>
      (Resource.descriptor descriptor).title?
  | _ => none

/-- The texts and policies that a step starts a context with. -/
def startsWith? (session : Session) : Step → Option Library
  | .context (.start _ .defaults) => some { session.library with policies := {} }
  | .context (.start _ (.policies policies)) => some { session.library with policies }
  | .context (.start _ .session) => some session.library
  | .context (.start _ (.settings settings)) =>
    (Policies.ofSettings settings).toOption.map fun policies =>
      { describe := session.library.describe, policies }
  | _ => none

/-- The event of a successful call on the claims of a handle that owns something. -/
def claimEvent? (session : Session) (step : Step) : Option ClaimEvent :=
  if (session.step step).1.result.isOk then
    match step with
    | .handle (.claim name interface) =>
      (session.resources.handle? name).bind fun handle =>
        handle.owner.raw.map (.claimed · interface)
    | .handle (.unclaim name interface) =>
      (session.resources.handle? name).bind fun handle =>
        handle.owner.raw.map (.released · interface)
    | _ => none
  else none

end Session

def Ledger.after (ledger : Ledger) (session : Session) (step : Step) : Ledger where
  pending := (session.gives? step).toList ++
    (session.takes? step).elim ledger.pending ledger.pending.erase
  returned := ledger.returned
  released := ((session.gives? step).bind Title.handle?).toList ++ ledger.released
  events := ledger.events ++ (session.claimEvent? step).toList

/-! ## Runs -/

structure Client where
  session : Session
  ledger : Ledger := {}

/-- What a client may do next: a step, giving a title or a bus's own reference back by one native
call, or choosing the texts and policies of what is not derived from another resource. -/
inductive Act where
  | step (step : Step)
  | giveBack (title : Title)
  | returnReference (device : Address)
  | choose (library : Library)

/-- Which texts and policies a client may choose, and which codes it may inject. -/
structure Terms where
  library : Library → Bool
  code : Int → Bool

namespace Terms

def free : Terms where
  library _ := true
  code _ := true

/-- Failed calls are raised, and injected codes are failures. -/
def raising : Terms where
  library chosen := chosen.policies.call.raise
  code injected := injected < 0

end Terms

namespace Client

/-- A client that has done nothing yet, on a bus with nothing on it. -/
def fresh : Client where
  session := { library := {} }

def native (client : Client) (call : NativeCall) : Session :=
  (client.session.step (.native (.call call))).2

def act (client : Client) : Act → Client
  | .step step =>
    { session := (client.session.step step).2
      ledger := client.ledger.after client.session step }
  | .giveBack title =>
    { session := client.native title.returnCall
      ledger := { client.ledger with pending := client.ledger.pending.erase title } }
  | .returnReference device =>
    { session := client.native (.unrefDevice device)
      ledger := { client.ledger with returned := device :: client.ledger.returned } }
  | .choose library => { client with session := { client.session with library } }

def run (client : Client) (acts : List Act) : Client :=
  acts.foldl act client

structure PermitsStep (terms : Terms) (client : Client) (step : Step) : Prop where
  held : ∀ title ∈ client.session.takes? step, title ∈ client.ledger.pending
  attached : ∀ device ∈ step.namedDevice?, client.session.world.bus.Knows device
  codes : ∀ code ∈ step.injected?, terms.code code
  libraries : ∀ library ∈ client.session.startsWith? step, terms.library library
  indirect : step.isNative = false

def Permits (terms : Terms) (client : Client) : Act → Prop
  | .step step => client.PermitsStep terms step
  | .giveBack title => title ∈ client.ledger.pending
  | .returnReference device =>
    client.session.world.bus.Knows device ∧ device ∉ client.ledger.returned
  | .choose library => terms.library library

def Permitted (terms : Terms) : Client → List Act → Prop
  | _, [] => True
  | client, act :: rest => client.Permits terms act ∧ (client.act act).Permitted terms rest

instance (terms : Terms) (client : Client) (step : Step) :
    Decidable (client.PermitsStep terms step) :=
  decidable_of_iff
    ((∀ title ∈ client.session.takes? step, title ∈ client.ledger.pending) ∧
      (∀ device ∈ step.namedDevice?,
        device ∈ client.session.world.bus.devices.map AttachedDevice.id) ∧
      (∀ code ∈ step.injected?, terms.code code) ∧
      (∀ library ∈ client.session.startsWith? step, terms.library library) ∧
      step.isNative = false)
    ⟨fun ⟨held, attached, codes, libraries, indirect⟩ =>
      ⟨held, attached, codes, libraries, indirect⟩,
      fun permits => ⟨permits.held, permits.attached, permits.codes, permits.libraries,
        permits.indirect⟩⟩

instance (terms : Terms) (client : Client) (act : Act) : Decidable (client.Permits terms act) :=
  match act with
  | .step step => inferInstanceAs (Decidable (client.PermitsStep terms step))
  | .giveBack title => inferInstanceAs (Decidable (title ∈ client.ledger.pending))
  | .returnReference device =>
    inferInstanceAs (Decidable
      (device ∈ client.session.world.bus.devices.map AttachedDevice.id ∧
        device ∉ client.ledger.returned))
  | .choose library => inferInstanceAs (Decidable (terms.library library = true))

instance decidablePermitted (terms : Terms) :
    (client : Client) → (acts : List Act) → Decidable (client.Permitted terms acts)
  | _, [] => inferInstanceAs (Decidable True)
  | client, act :: rest =>
    have := decidablePermitted terms (client.act act) rest
    inferInstanceAs (Decidable (client.Permits terms act ∧ (client.act act).Permitted terms rest))

end Client

end UsbHost
