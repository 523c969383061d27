import SubgraphLauncher.Host.Files
import SubgraphLauncher.Settings.Coercion
import SubgraphLauncher.Settings.Environment
import SubgraphLauncher.Text.Upper

/-!
# Settings

The settings that a user may change have a key each, under which an overrides file sets them, and
most can also be set in the environment. Numbers in the environment have to be numerals.
-/

namespace SubgraphLauncher

inductive Setting
  | discoveryTimeout
  | pollInterval
  | probeTimeout
  | scanBudget
  | probePaths
  | notifyUrl
  | notifyTimeout
  | logLevel
  | logFile
  deriving DecidableEq, Repr

namespace Setting

def all : List Setting :=
  [discoveryTimeout, pollInterval, probeTimeout, scanBudget, probePaths, notifyUrl, notifyTimeout,
   logLevel, logFile]

def key : Setting → String
  | discoveryTimeout => "DISCOVERY_TIMEOUT_SECONDS"
  | pollInterval => "DISCOVERY_POLL_INTERVAL"
  | probeTimeout => "GRAPHQL_PROBE_TIMEOUT"
  | scanBudget => "GRAPHQL_SCAN_BUDGET"
  | probePaths => "GRAPHQL_PROBE_PATHS"
  | notifyUrl => "NOTIFY_URL"
  | notifyTimeout => "NOTIFY_TIMEOUT"
  | logLevel => "LOG_LEVEL"
  | logFile => "LOG_FILE_PATH"

def ofKey? (key : String) : Option Setting := all.find? fun setting => setting.key == key

end Setting

structure Settings where
  directory : Path
  overrides : Path
  value : Setting → Value

namespace Settings

def set (settings : Settings) (setting : Setting) (value : Value) : Settings :=
  { settings with value := fun s => if s = setting then value else settings.value s }

/-- A number that a setting holds; it holds none where the number was taken away. -/
def number? (settings : Settings) (setting : Setting) : Option Float :=
  match settings.value setting with
  | .float x => some x
  | _ => none

def text? (settings : Settings) (setting : Setting) : Option String :=
  (settings.value setting).text?

end Settings

/-- Reads a number from the environment, or takes the default. -/
def numberFrom (given : Option String) (default : Float) : Except (Failure Float) Float :=
  match given with
  | none => .ok default
  | some text => ((Value.text text).toFraction).mapError CoercionFault.failure

/-- The home directory: the one that is given, or else the one on record. A home that starts with a
tilde is none. -/
def homeDirectory (recorded given : Option String) : Except (Failure Float) Path :=
  let noHome := .error (.other .runtimeError (some "Could not determine home directory."))
  match given.or recorded with
  | none => noHome
  | some home =>
    if home.toList.head? = some '~' then noHome
    else if home.toList.all (· == '/') then .ok (Path.ofText "/")
    else .ok (Path.ofText home)

def upperCase (s : String) : String := String.ofList (Text.upper s.toList)

/-- The settings where variables are looked up in the given way. -/
def settingsFrom (recordedHome : Option String) (lookUp : String → Option String) :
    Except (Failure Float) Settings := do
  let home ← homeDirectory recordedHome (lookUp "HOME")
  let directory := match lookUp "DEVRUNNER_CONFIG_DIR" with
    | some text => Path.ofText text
    | none => home.child ".devrunner"
  let overrides := match lookUp "DEVRUNNER_OVERRIDES_PATH" with
    | some text => Path.ofText text
    | none => directory.child "overrides.json"
  let discoveryTimeout ← numberFrom (lookUp "DEVRUNNER_DISCOVERY_TIMEOUT") 5.0
  let pollInterval ← numberFrom (lookUp "DEVRUNNER_DISCOVERY_POLL_INTERVAL") 0.1
  let probeTimeout ← numberFrom (lookUp "DEVRUNNER_PROBE_TIMEOUT") 0.5
  let scanBudget ← numberFrom (lookUp "DEVRUNNER_SCAN_BUDGET") 0.75
  let notifyTimeout ← numberFrom (lookUp "DEVRUNNER_NOTIFY_TIMEOUT") 2.0
  let notifyUrl := (lookUp "DEVRUNNER_NOTIFY_URL").getD "http://127.0.0.1:4099"
  let logLevel := upperCase ((lookUp "DEVRUNNER_LOG_LEVEL").getD "INFO")
  let logFile := (lookUp "DEVRUNNER_LOG_FILE").getD ""
  return ⟨directory, overrides, fun
    | .discoveryTimeout => .float discoveryTimeout
    | .pollInterval => .float pollInterval
    | .probeTimeout => .float probeTimeout
    | .scanBudget => .float scanBudget
    | .probePaths => .tuple [.text "/", .text "/graphql", .text "/query"]
    | .notifyUrl => .text notifyUrl
    | .notifyTimeout => .float notifyTimeout
    | .logLevel => .text logLevel
    | .logFile => if logFile.isEmpty then .null else .text logFile⟩

/-- The settings without overrides. -/
def settingsOf (surroundings : Surroundings) : Except (Failure Float) Settings := do
  let known ← surroundings.known
  settingsFrom surroundings.recordedHome (Environment.get? known)

end SubgraphLauncher
