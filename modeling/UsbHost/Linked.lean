import UsbHost.Session.Run

/-!
# The linked library

The functions of the library that a program is linked with, and the interface that reaches them: it
passes every call on to the function of the same name, with the arguments as they are, and answers
what that function answers. Return values are of the same width on both sides.
-/

set_option autoImplicit false

namespace UsbHost

/-- The functions of the linked library, as they act on the bus behind it. -/
structure LinkedLibrary where
  strerror : Int → String
  initLibrary : Bus → Reply Address × Bus
  exitLibrary : Address → Bus → Bus
  getDeviceList : Address → Bus → Reply DeviceArray × Bus
  freeDeviceList : BlockRef → Int → Bus → Bus
  refDevice : Address → Bus → Address × Bus
  unrefDevice : Address → Bus → Bus
  openDevice : Address → Bus → Reply Address × Bus
  wrapSystemDevice : Address → Int → Bus → Reply Address × Bus
  closeHandle : Address → Bus → Bus
  getDevice : Address → Bus → Address × Bus
  getDeviceDescriptor : Address → Bus → Reply DeviceRecord × Bus
  getConfigDescriptor : Address → UInt8 → Bus → Reply ConfigPointer × Bus
  freeConfigDescriptor : BlockRef → Bus → Bus
  claimInterface : Address → Int → Bus → Reply Unit × Bus
  releaseInterface : Address → Int → Bus → Reply Unit × Bus
  setConfiguration : Address → Int → Bus → Reply Unit × Bus
  getConfiguration : Address → Bus → Reply Int × Bus
  setAutoDetach : Address → Int → Bus → Reply Unit × Bus
  getBusNumber : Address → Bus → UInt8 × Bus
  getDeviceAddress : Address → Bus → UInt8 × Bus
  getPortNumbers : Address → Int → Bus → Reply (List UInt8) × Bus

namespace LinkedLibrary

/-- The interface that passes every call on to the linked library. -/
@[reducible] def api (linked : LinkedLibrary) : NativeApi where
  initLibrary bus := linked.initLibrary bus
  exitLibrary context bus := linked.exitLibrary context bus
  getDeviceList context bus := linked.getDeviceList context bus
  freeDeviceList list unref bus := linked.freeDeviceList list unref bus
  refDevice device bus := linked.refDevice device bus
  unrefDevice device bus := linked.unrefDevice device bus
  openDevice device bus := linked.openDevice device bus
  wrapSystemDevice context systemHandle bus := linked.wrapSystemDevice context systemHandle bus
  closeHandle handle bus := linked.closeHandle handle bus
  getDevice handle bus := linked.getDevice handle bus
  getDeviceDescriptor device bus := linked.getDeviceDescriptor device bus
  getConfigDescriptor device index bus := linked.getConfigDescriptor device index bus
  freeConfigDescriptor descriptor bus := linked.freeConfigDescriptor descriptor bus
  claimInterface handle interface bus := linked.claimInterface handle interface bus
  releaseInterface handle interface bus := linked.releaseInterface handle interface bus
  setConfiguration handle value bus := linked.setConfiguration handle value bus
  getConfiguration handle bus := linked.getConfiguration handle bus
  setAutoDetach handle enable bus := linked.setAutoDetach handle enable bus
  getBusNumber device bus := linked.getBusNumber device bus
  getDeviceAddress device bus := linked.getDeviceAddress device bus
  getPortNumbers device capacity bus := linked.getPortNumbers device capacity bus

/-- What the resources of a session over the linked library carry. -/
def library (linked : LinkedLibrary) (policies : Policies) : Library :=
  { describe := linked.strerror, policies }

/-- A native call of the linked library. -/
def perform (linked : LinkedLibrary) (call : NativeCall) (bus : Bus) : NativeAnswer × Bus :=
  letI := linked.api
  call.perform bus

/-- A step of a session over the linked library. -/
def step (linked : LinkedLibrary) (session : Session) (step : Step) : Session.Ended :=
  letI := linked.api
  session.step step

/-- A run of a session over the linked library. -/
def steps (linked : LinkedLibrary) (session : Session) (steps : List Step) : Session :=
  letI := linked.api
  session.steps steps

end LinkedLibrary

end UsbHost
