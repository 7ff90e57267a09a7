import UsbHost.DeviceList

/-!
# Resources of any kind

The five kinds of resource as one type, so that dropping, moving and showing need not be said five
times.
-/

set_option autoImplicit false

namespace UsbHost

variable [NativeApi]

inductive ResourceKind where
  | context
  | list
  | device
  | handle
  | descriptor
  deriving DecidableEq, Repr

inductive Resource where
  | context (context : Context)
  | list (list : DeviceList)
  | device (device : Device)
  | handle (handle : Handle)
  | descriptor (descriptor : ConfigDescriptor)

namespace Resource

def kind : Resource → ResourceKind
  | .context _ => .context
  | .list _ => .list
  | .device _ => .device
  | .handle _ => .handle
  | .descriptor _ => .descriptor

def library : Resource → Library
  | .context value => value.library
  | .list value => value.library
  | .device value => value.library
  | .handle value => value.library
  | .descriptor value => value.library

def drop : Resource → World → World
  | .context value => value.drop
  | .list value => value.drop
  | .device value => value.drop
  | .handle value => value.drop
  | .descriptor value => value.drop

def inspect : Resource → Inspect
  | .context value => value.inspect
  | .list value => value.inspect
  | .device value => value.inspect
  | .handle value => value.inspect
  | .descriptor value => value.inspect

end Resource

/-- Resources under names. Two resources of different kinds may have the same name. -/
abbrev Resources := List (String × Resource)

namespace Resources

/-- The resource of a kind under a name. -/
def find? (resources : Resources) (kind : ResourceKind) (name : String) : Option Resource :=
  (List.find? (fun entry => entry.1 == name && entry.2.kind == kind) resources).map Prod.snd

/-- The context under a name. -/
def context? (resources : Resources) (name : String) : Option Context :=
  match resources.find? .context name with
  | some (.context context) => some context
  | _ => none

/-- The list under a name. -/
def list? (resources : Resources) (name : String) : Option DeviceList :=
  match resources.find? .list name with
  | some (.list list) => some list
  | _ => none

/-- The device under a name. -/
def device? (resources : Resources) (name : String) : Option Device :=
  match resources.find? .device name with
  | some (.device device) => some device
  | _ => none

/-- The handle under a name. -/
def handle? (resources : Resources) (name : String) : Option Handle :=
  match resources.find? .handle name with
  | some (.handle handle) => some handle
  | _ => none

/-- The configuration descriptor under a name. -/
def descriptor? (resources : Resources) (name : String) : Option ConfigDescriptor :=
  match resources.find? .descriptor name with
  | some (.descriptor descriptor) => some descriptor
  | _ => none

/-- The resources without the one of a kind under a name. -/
def remove (resources : Resources) (kind : ResourceKind) (name : String) : Resources :=
  List.filter (fun entry => !(entry.1 == name && entry.2.kind == kind)) resources

/-- The resources with one more, in place of an older one of the same kind and name. -/
def put (resources : Resources) (name : String) (resource : Resource) : Resources :=
  resources.remove resource.kind name ++ [(name, resource)]

/-- The resources of a kind, in the order of their names. -/
def ofKind (resources : Resources) (kind : ResourceKind) : Resources :=
  (List.filter (fun entry => entry.2.kind == kind) resources).mergeSort fun a b => a.1 ≤ b.1

/-- The order in which everything that is left is ended: a handle before the devices, contexts
last, and resources of one kind by their names. -/
def teardownOrder (resources : Resources) : List Resource :=
  ([ResourceKind.handle, .device, .descriptor, .list, .context].flatMap resources.ofKind).map
    Prod.snd

end Resources

end UsbHost
