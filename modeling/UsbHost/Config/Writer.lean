import UsbHost.Config.Settings
import UsbHost.Toml.Writer

/-!
# Writing configurations

A configuration is written as a table of logging settings and, behind an empty line, a table of
call settings. Every setting is written, whether it has its default or not.
-/

set_option autoImplicit false

namespace UsbHost

/-- A key with its value, on a line of its own. -/
def settingLine (key value : String) : String :=
  key ++ " = " ++ value ++ "\n"

def LoggingSettings.written (settings : LoggingSettings) : String :=
  "[logging]\n" ++ settingLine "level" (Toml.writeText settings.level) ++
    settingLine "with_target" (Toml.writeFlag settings.withTarget)

def CallSettings.written (settings : CallSettings) : String :=
  "[calls]\n" ++ settingLine "failure_level" (Toml.writeText settings.failureLevel) ++
    settingLine "cleanup_level" (Toml.writeText settings.cleanupLevel) ++
    settingLine "query_level" (Toml.writeText settings.queryLevel)

def Config.written (config : Config) : String :=
  config.logging.written ++ "\n" ++ config.calls.written

end UsbHost
