import UsbHost.Config.Settings
import UsbHost.FileTree

/-!
# Why there is no configuration

A document may be malformed, which includes values of the wrong type, or its configuration may be
invalid, or there may be no document that can be read.
-/

set_option autoImplicit false

namespace UsbHost

/-- Why a configuration was not obtained. -/
inductive ConfigError where
  | malformed
  | invalid (reason : InvalidConfig)
  | unreadable (path : String) (cause : ReadError)
  deriving DecidableEq, Repr

def ConfigError.message : ConfigError → String
  | malformed => "Invalid config file"
  | invalid reason => configurationError reason.message
  | unreadable path cause =>
    configurationError ("Failed to read config file " ++ path ++ ": " ++ cause.message)

end UsbHost
