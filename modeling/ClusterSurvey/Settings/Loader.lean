import ClusterSurvey.Environment.File
import ClusterSurvey.Settings.Overrides
import ClusterSurvey.Storage.Lookup
import ClusterSurvey.Text.Natural

/-!
# Loading settings

Settings come from three places: a variable of the environment goes before a line of the file, and
that before the default.  A blank variable counts as none, while what the file says stands even if it
is blank.  The file is the one that the caller names, else the one that a variable names, else the
first that is there of two usual ones; a file that somebody names has to be there.

Specification: section 10.4, `ConfigLoader`.
-/

namespace ClusterSurvey

/-- Why settings could not be loaded. -/
inductive LoadError where
  /-- The file that somebody names is not there. -/
  | missing (path : String)
  | unread (path : String) (fault : ReadFault)
  | unparsed (path : String) (reason : Toml.ReadError)
  | badVariable (name value : String) (fault : Text.NaturalFault)
  | invalid (reason : SettingsError)
  | badEnvironmentFile (fault : EnvFile.LineFault)
  deriving DecidableEq, Repr

/-- The wording of a load error. -/
def LoadError.message : LoadError → String
  | missing path => "configuration file missing: " ++ path
  | unread path _ => "failed to read configuration " ++ path
  | unparsed path _ => "failed to parse configuration " ++ path
  | badVariable name value fault =>
    "invalid configuration: " ++ name ++ "=" ++ Text.quoted value ++ ": " ++ fault.message
  | invalid reason => "invalid configuration: " ++ reason.message
  | badEnvironmentFile fault => fault.message

/-- What the names of all variables that matter begin with. -/
def variablePrefix : String := "SONDE_"

namespace Environment

/-- The trimmed text of one of the variables that matter, unless it is blank. -/
def setting? (e : Environment) (name : String) : Option String :=
  ((e.get? (variablePrefix ++ name)).map Text.trim).filter (· ≠ "")

/-- The number of so many bits in one of the variables that matter. -/
def naturalSetting (e : Environment) (name : String) (bits : Nat) :
    Except LoadError (Option Nat) :=
  match e.setting? name with
  | none => .ok none
  | some raw =>
    match Text.readNatural bits raw with
    | .ok n => .ok (some n)
    | .error fault => .error (.badVariable (variablePrefix ++ name) raw fault)

end Environment

/-- The settings that an environment names. -/
def Overrides.ofEnvironment (e : Environment) : Except LoadError Overrides := do
  let bindPort ← e.naturalSetting "BIND_PORT" 16
  let timeout ← e.naturalSetting "TIMEOUT_SECONDS" 64
  let gracePeriod ← e.naturalSetting "GRACE_PERIOD_SECONDS" 64
  let monitorInterval ← e.naturalSetting "MONITOR_INTERVAL_SECONDS" 64
  return {
    bindAddress := e.setting? "BIND_ADDRESS"
    bindPort
    advertiseAddress := e.setting? "ADVERTISE_ADDRESS"
    timeout
    gracePeriod
    cluster := e.setting? "NAMESPACE"
    workerImage := e.setting? "WORKER_IMAGE"
    monitorInterval }

/-- Where settings are loaded from. -/
structure Loader where
  /-- The path of the file, if the caller names one. -/
  settingsPath : Option String
  /-- The path of the environment file, if the caller names one. -/
  environmentPath : Option String

namespace Loader

/-- Where the file is if nobody names one. -/
def usualPaths : List String := ["sonde.toml", "config/sonde.toml"]

/-- The name of the environment file if the caller names none. -/
def usualEnvironmentFile : String := ".env"

/-- The path of the file to read, if there is one. -/
def choosePath (l : Loader) (w : WorkingTree) (e : Environment) :
    Except LoadError (Option String) :=
  match l.settingsPath.or (e.setting? "CONFIG") with
  | some path => if w.leads path then .ok (some path) else .error (.missing path)
  | none => .ok (usualPaths.find? w.leads)

/-- The settings that the file names. -/
def fileOverrides (l : Loader) (w : WorkingTree) (e : Environment) : Except LoadError Overrides := do
  match ← l.choosePath w e with
  | none => return .empty
  | some path =>
    match w.readText path with
    | .error fault => throw (.unread path fault)
    | .ok text =>
      match Overrides.ofFile text with
      | .error reason => throw (.unparsed path reason)
      | .ok o => return o

/-- Loads settings from a tree under an environment. -/
def loadWith (l : Loader) (w : WorkingTree) (e : Environment) : Except LoadError Settings := do
  let file ← l.fileOverrides w e
  let named ← Overrides.ofEnvironment e
  let settings := named.onto (file.onto .default)
  match settings.check with
  | .ok () => return settings
  | .error reason => throw (.invalid reason)

/-- The content of the environment file, if it can be read. -/
def environmentFile? (l : Loader) (w : WorkingTree) : Option ByteArray :=
  match l.environmentPath with
  | some path => (w.readFile path).toOption
  | none => w.findUp usualEnvironmentFile

/-- Loads settings from a tree under an environment that an environment file completes. -/
def load (l : Loader) (w : WorkingTree) (e : Environment) : Except LoadError Settings :=
  match l.environmentFile? w with
  | none => l.loadWith w e
  | some content =>
    match EnvFile.load e content with
    | .error fault => .error (.badEnvironmentFile fault)
    | .ok e => l.loadWith w e

end Loader

end ClusterSurvey
