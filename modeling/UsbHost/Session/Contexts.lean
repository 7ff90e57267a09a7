import UsbHost.Session.Basic

/-!
# Steps on contexts
-/

set_option autoImplicit false

namespace UsbHost

variable [NativeApi]

/-- Where a new context gets its policies from: the defaults, the ones given, those of the
session, or settings that have yet to be read. -/
inductive ContextSource where
  | defaults
  | policies (policies : Policies)
  | session
  | settings (settings : CallSettings)
  deriving DecidableEq, Repr

inductive ContextStep where
  | start (target : String) (source : ContextSource)
  | empty (target : String)
  | adopt (target : String) (raw : Address)
  | look (context : String)
  | reset (context : String) (raw : Address)
  | release (context : String)
  deriving DecidableEq, Repr

namespace ContextStep

def startInto (session : Session) (target : String) : ContextSource → Session.Ended
  | .defaults =>
    session.perform (Context.start { session.library with policies := {} }) fun context =>
      Session.storing target (.context context)
  | .policies policies =>
    session.perform (Context.start { session.library with policies }) fun context =>
      Session.storing target (.context context)
  | .session =>
    session.perform (Context.start session.library) fun context =>
      Session.storing target (.context context)
  | .settings settings =>
    session.run (Context.startWithSettings session.library.describe settings) fun result session =>
      match result with
      | .ok context => session.storing target (.context context)
      | .error error => (.refused (.setup error), session)

def perform (step : ContextStep) (session : Session) : Session.Ended :=
  match step with
  | .start target source => startInto session target source
  | .empty target => session.storing target (.context (.empty session.library))
  | .adopt target raw => session.storing target (.context (.ofRaw session.library raw))
  | .look name =>
    session.withSlot (session.resources.context? name) fun context =>
      session.answer (.context context)
  | .reset name raw =>
    session.withSlot (session.resources.context? name) fun context =>
      let (context, world) := context.reset raw session.world
      (session.update name (.context context) world).answer .done
  | .release name =>
    session.withSlot (session.resources.context? name) fun context =>
      let (raw, context) := context.release
      (session.update name (.context context) session.world).answer (.address raw)

end ContextStep

end UsbHost
