import SubgraphLauncher.Action
import SubgraphLauncher.Event
import SubgraphLauncher.Settings.Basic
import SubgraphLauncher.Value.Json

/-!
# Overrides

A file may hold an object whose entries replace settings. Entries are taken one by one: one that is
unknown, fixed, or of no use leads to a record and changes nothing. A file that is no document is
reported as a whole. What is not foreseen ends the loading: bytes that are no text, names of files
and numerals that are too long, numbers that are too large, and brackets that are nested too deep.
-/

namespace SubgraphLauncher

/-- Loading writes records and changes the settings. -/
abbrev LoadAction (α : Type) : Type := Action Record Settings (Failure Float) α

def settingsRecord (level : Level) (message : String) : LoadAction Unit :=
  Action.emit ⟨level, .settings, message⟩

/-- Names that belong to the settings without being open to change. -/
def fixedNames : List String :=
  ["CONFIG_DIR", "OVERRIDES_JSON_PATH", "GRAPHQL_PROBE_QUERY", "MODIFIABLE_SETTINGS", "as_dict",
   "_coerce", "_load_defaults", "_load_overrides", "__class__", "__delattr__", "__dict__",
   "__dir__", "__doc__", "__eq__", "__format__", "__ge__", "__getattribute__", "__getstate__",
   "__gt__", "__hash__", "__init__", "__init_subclass__", "__le__", "__lt__", "__module__",
   "__ne__", "__new__", "__reduce__", "__reduce_ex__", "__repr__", "__setattr__", "__sizeof__",
   "__str__", "__subclasshook__", "__weakref__"]

def applyOverride (key : String) (value : Value) : LoadAction Unit :=
  match Setting.ofKey? key with
  | none =>
    if fixedNames.contains key then
      settingsRecord .warning
        ("Attempted to override non-modifiable setting '" ++ key ++ "'. Ignoring.")
    else
      settingsRecord .warning
        ("Override setting '" ++ key ++ "' not found in default settings. Ignoring.")
  | some setting => do
    match ((← Action.current).value setting).alike value with
    | .ok made =>
      Action.change fun settings => settings.set setting made
      settingsRecord .debug ("Overridden setting: " ++ key ++ " = " ++ value.shown)
    | .error fault =>
      if fault.isSkipped then
        settingsRecord .error ("Could not convert value '" ++ value.shown ++ "' for key '" ++ key ++
          "': " ++ fault.message)
      else Action.raise fault.failure

def applyOverrides : List (Value × Value) → LoadAction Unit
  | [] => pure ()
  | (key, value) :: rest => do
    applyOverride key.shown value
    applyOverrides rest

def rejectFile (path : Path) (reason : Failure Float) : LoadAction Unit :=
  settingsRecord .error
    ("Failed to load or parse overrides file '" ++ path.text ++ "': " ++ reason.message)

def applyFile (path : Path) (content : List UInt8) : LoadAction Unit := do
  let chars ← Action.ofExcept (decodeFile content)
  match Json.parse chars with
  | .error fault@(.malformed ..) => rejectFile path (fault.failure .badDocument)
  | .error fault => Action.raise (fault.failure .badDocument)
  | .ok (.object entries) =>
    settingsRecord .info ("Loading configuration overrides from " ++ path.text)
    applyOverrides entries
  | .ok _ =>
    settingsRecord .error
      ("Overrides file '" ++ path.text ++ "' must contain a JSON object. Ignoring.")

/-- Applies a file of overrides, if it is there. A name that is too long to look for ends the
loading. -/
def loadOverrides (tree : FileTree) : LoadAction Unit := do
  let path := (← Action.current).overrides
  match tree.find path with
  | .error .tooLong => Action.raise (PathFault.tooLong.failure path.text)
  | .error _ => pure ()
  | .ok .directory => rejectFile path (PathFault.isDirectory.failure path.text)
  | .ok (.file content) => applyFile path content

/-- Loads the settings: those of the environment, and over them the entries of the overrides file at
the given path, or at the path that the environment names. -/
def loadSettings (surroundings : Surroundings) (overrides : Option Path) :
    Outcome Record Settings (Failure Float) Unit :=
  let blank : Settings := ⟨⟨"", []⟩, ⟨"", []⟩, fun _ => .null⟩
  match settingsOf surroundings with
  | .error failure => ⟨.error failure, blank, []⟩
  | .ok settings =>
    loadOverrides surroundings.tree
      { settings with overrides := overrides.getD settings.overrides }

end SubgraphLauncher
