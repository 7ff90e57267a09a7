import UsbHost.Config.Reader
import UsbHost.Log

/-!
# Loading configurations

A configuration is loaded from the path that is given, or from the default path. Where a path is
given, there must be a file; a missing file at the default path means the default configuration.
Whether it is missing is asked of the system, and a path that the system refuses to follow counts
as one at which there is nothing. What was found is logged, a failure is not.
-/

set_option autoImplicit false

namespace UsbHost

structure Environment where
  /-- The home directory that is set; it counts only if it is not empty. -/
  homeVariable : String
  /-- The home directory of the account, if there is one. -/
  accountHome : Option String
  /-- The directory for configurations that is set; it counts only if it is absolute. -/
  configHome : Option String := none
  deriving DecidableEq, Repr

namespace Environment

def home (environment : Environment) : Option String :=
  if environment.homeVariable.isEmpty then environment.accountHome
  else some environment.homeVariable

def configDirectory (environment : Environment) : Option String :=
  match environment.configHome.filter FileTree.isAbsolute with
  | some directory => some directory
  | none => environment.home.map fun home => FileTree.join home ".config"

/-- Where the configuration stands unless a path is given. Without a directory for configurations
it stands below the directory that relative paths start from. -/
def defaultPath (environment : Environment) : String :=
  match environment.configDirectory with
  | some directory => FileTree.join (FileTree.join directory "scoped-usb") "config.toml"
  | none => ".config/scoped-usb/config.toml"

/-- Puts the home directory in place of a tilde that stands alone or before a slash. Where there is
no home directory the tilde stays. -/
def expandTilde (environment : Environment) (path : String) : String :=
  match environment.home, path.toList with
  | some home, ['~'] => home
  | some home, '~' :: '/' :: rest => home ++ String.ofList ('/' :: rest)
  | _, _ => path

end Environment

namespace Config

def load (files : FileTree) (path : String) : Except ConfigError Config × Log :=
  match files.readText path with
  | .error cause => (.error (.unreadable path cause), [])
  | .ok text =>
    match read text with
    | .error error => (.error error, [])
    | .ok config =>
      (.ok config, [.note .info ⟨.configuration, "Loaded configuration from: " ++ path⟩])

/-- Loads the configuration at the given path, in which a tilde may stand, or at the default
path. -/
def loadOrDefault (files : FileTree) (environment : Environment) (path : Option String) :
    Except ConfigError Config × Log :=
  match path with
  | some path => load files (environment.expandTilde path)
  | none =>
    let path := environment.defaultPath
    if files.has path then load files path
    else
      (.ok {},
        [.note .debug
          ⟨.configuration, "No configuration file at " ++ path ++ ", using defaults"⟩])

end Config

end UsbHost
