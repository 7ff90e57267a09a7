import UsbHost.Session.Basic

/-!
# Steps on configuration descriptors
-/

set_option autoImplicit false

namespace UsbHost

variable [NativeApi]

inductive DescriptorStep where
  | empty (target : String)
  | look (descriptor : String)
  | clear (descriptor : String)
  /-- Gives the record up and holds it as memory that nobody owns. -/
  | release (descriptor held : String)
  /-- Takes over a held record, or null if none is named. -/
  | adopt (target : String) (held : Option String)
  deriving DecidableEq, Repr

namespace DescriptorStep

def perform (step : DescriptorStep) (session : Session) : Session.Ended :=
  match step with
  | .empty target => session.storing target (.descriptor (.empty session.library))
  | .look name =>
    session.withSlot (session.resources.descriptor? name) fun descriptor =>
      session.answer (.descriptor descriptor)
  | .clear name =>
    session.withSlot (session.resources.descriptor? name) fun descriptor =>
      let (descriptor, world) := descriptor.clear session.world
      (session.update name (.descriptor descriptor) world).answer .done
  | .release name held =>
    session.withSlot (session.resources.descriptor? name) fun descriptor =>
      let (raw, descriptor) := descriptor.release
      let session := session.update name (.descriptor descriptor) session.world
      match raw with
      | some pointer =>
        { session with heldRecords := session.heldRecords.put held pointer }.answer (.flag true)
      | none => session.answer (.flag false)
  | .adopt target none => session.storing target (.descriptor (.ofRaw session.library none))
  | .adopt target (some held) =>
    session.withSlot (session.heldRecords.get? held) fun pointer =>
      { session with heldRecords := session.heldRecords.remove held }.storing target
        (.descriptor (.ofRaw session.library (some pointer)))

end DescriptorStep

end UsbHost
