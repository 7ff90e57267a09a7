import UsbHost.Level

/-!
# Call policies

A policy says at which level a failed native call is logged and whether the failure is raised to
the caller. A resource carries three of them: for ordinary operations, for releasing interfaces
while a handle is torn down, and for queries that answer with a default.
-/

set_option autoImplicit false

namespace UsbHost

structure CallPolicy where
  level : Level
  raise : Bool
  deriving DecidableEq, Repr

namespace CallPolicy

def raising : CallPolicy := { level := .error, raise := true }

def logOnly : CallPolicy := { level := .error, raise := false }

def withLevel (policy : CallPolicy) (level : Level) : CallPolicy :=
  { policy with level }

/-- The same level, without raising. -/
def quiet (policy : CallPolicy) : CallPolicy :=
  { policy with raise := false }

end CallPolicy

/-- The policies that a context hands to every resource derived from it. -/
structure Policies where
  call : CallPolicy := .raising
  cleanup : CallPolicy := .logOnly
  query : CallPolicy := .logOnly
  deriving DecidableEq, Repr

end UsbHost
