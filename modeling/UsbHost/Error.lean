import UsbHost.Text.Quoted

/-!
# Failures of native calls

A native call fails by returning a negative code. Thirteen codes have a kind of their own; any
other code is of kind `other` but keeps its number, so that a caller can still tell codes apart.
-/

set_option autoImplicit false

namespace UsbHost

inductive ErrorKind where
  | io
  | invalidParam
  | access
  | noDevice
  | notFound
  | busy
  | timeout
  | overflow
  | pipe
  | interrupted
  | noMem
  | notSupported
  | other
  deriving DecidableEq, Repr

namespace ErrorKind

/-- All kinds, in the order of their codes. -/
def all : List ErrorKind :=
  [io, invalidParam, access, noDevice, notFound, busy, timeout, overflow, pipe, interrupted,
    noMem, notSupported, other]

def code : ErrorKind → Int
  | io => -1
  | invalidParam => -2
  | access => -3
  | noDevice => -4
  | notFound => -5
  | busy => -6
  | timeout => -7
  | overflow => -8
  | pipe => -9
  | interrupted => -10
  | noMem => -11
  | notSupported => -12
  | other => -99

/-- The kind of a code; codes outside the table are `other`. -/
def ofCode (code : Int) : ErrorKind :=
  (all.find? fun kind => kind.code == code).getD other

def name : ErrorKind → String
  | io => "Io"
  | invalidParam => "InvalidParam"
  | access => "Access"
  | noDevice => "NoDevice"
  | notFound => "NotFound"
  | busy => "Busy"
  | timeout => "Timeout"
  | overflow => "Overflow"
  | pipe => "Pipe"
  | interrupted => "Interrupted"
  | noMem => "NoMem"
  | notSupported => "NotSupported"
  | other => "Other"

def description : ErrorKind → String
  | io => "Input/Output Error"
  | invalidParam => "Invalid parameter"
  | access => "Access denied (insufficient permissions)"
  | noDevice => "No such device (it may have been disconnected)"
  | notFound => "Entity not found"
  | busy => "Resource busy"
  | timeout => "Operation timed out"
  | overflow => "Overflow"
  | pipe => "Pipe error"
  | interrupted => "System call interrupted (perhaps due to signal)"
  | noMem => "Insufficient memory"
  | notSupported => "Operation not supported or unimplemented on this platform"
  | other => "Other error"

/-- A kind is found again under its own code. -/
theorem ofCode_code (kind : ErrorKind) : ofCode kind.code = kind := by
  cases kind <;> rfl

end ErrorKind

/-- Whether the table of kinds lists the code itself. -/
def isListedCode (code : Int) : Bool :=
  ErrorKind.all.any fun kind => kind.code == code

/-- The text of a native return code as this library words it. A code outside the table is
unknown, although its kind is `other`. -/
def describeCode (code : Int) : String :=
  if code = 0 then "Success"
  else if isListedCode code then (ErrorKind.ofCode code).description
  else "Unknown error"

/-- The text of a native return code as the system's library words it: a code outside the table
reads as any other error. -/
def systemDescription (code : Int) : String :=
  if code = 0 then "Success" else (ErrorKind.ofCode code).description

/-- A failed native call: the code and a description of it. -/
structure UsbError where
  code : Int
  message : String
  deriving DecidableEq, Repr

namespace UsbError

/-- The failure with this library's own description of the code. -/
def ofCode (code : Int) : UsbError :=
  { code, message := describeCode code }

/-- The failure of the given kind, with that kind's code. -/
def ofKind (kind : ErrorKind) : UsbError :=
  ofCode kind.code

def kind (error : UsbError) : ErrorKind :=
  ErrorKind.ofCode error.code

def display (error : UsbError) : String :=
  error.message ++ " (libusb error " ++ toString error.code ++ ")"

/-- The failure with its fields named and its message quoted. -/
def inspect (error : UsbError) : String :=
  "UsbError \x7b code: " ++ toString error.code ++ ", message: " ++ Text.quoted error.message ++
    " \x7d"

end UsbError

structure OutOfRange where
  index : Nat
  size : Nat
  deriving DecidableEq, Repr

namespace OutOfRange

def display (access : OutOfRange) : String :=
  "Device list index " ++ toString access.index ++ " out of range (size " ++
    toString access.size ++ ")"

def inspect (access : OutOfRange) : String :=
  "OutOfRange \x7b index: " ++ toString access.index ++ ", len: " ++ toString access.size ++ " \x7d"

end OutOfRange

/-- The failure that a native return value signals: negative values fail. A value too small for
a 32-bit code is reported as code `-99`. -/
def failureCode (returned : Int) : Option Int :=
  if 0 ≤ returned then none
  else if returned < -2147483648 then some ErrorKind.other.code
  else some returned

end UsbHost
