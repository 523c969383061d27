import SubgraphLauncher.Program.Basic
import SubgraphLauncher.Settings.EnvironmentFile
import SubgraphLauncher.Settings.Overrides

/-!
# The command line

Runs the program with the arguments and the environment of this process, on a host on which nothing
is installed and nobody listens. What there is to see then is how arguments and settings are read.
-/

namespace SubgraphLauncher

/-- The variables that settings are read from. -/
def settingVariables : List String :=
  ["HOME", "DEVRUNNER_CONFIG_DIR", "DEVRUNNER_OVERRIDES_PATH", "DEVRUNNER_DISCOVERY_TIMEOUT",
   "DEVRUNNER_DISCOVERY_POLL_INTERVAL", "DEVRUNNER_PROBE_TIMEOUT", "DEVRUNNER_SCAN_BUDGET",
   "DEVRUNNER_NOTIFY_URL", "DEVRUNNER_NOTIFY_TIMEOUT", "DEVRUNNER_LOG_LEVEL", "DEVRUNNER_LOG_FILE"]

def idleWorld : World Float (Desk Float) where
  scene := ⟨⟨0.0, [], false, [], false, []⟩, ⟨0, []⟩⟩
  processes := ⟨[], [], 1001, [], [], "linux", true⟩
  patience := ⟨none, 1000⟩
  paused := 0
  registry := Registry.empty

/-- The report of the program in an environment at some moment, or the failure of its settings. -/
def reportIn (environment : Environment.Variables) (arguments : List String) (stamp : String) :
    Except (Failure Float) Report :=
  let files := FileTree.bare []
  let loaded := loadSettings ⟨environment, none, Environment.fileReader, files⟩ none
  loaded.result.map fun _ =>
    Program.run ⟨arguments, loaded.state, .pipe, fun _ => false, 0, fun _ => none⟩ idleWorld
      (Journal.start files stamp fun _ => [])

end SubgraphLauncher

open SubgraphLauncher in
def main (arguments : List String) : IO UInt32 := do
  let environment ← settingVariables.filterMapM fun name => do
    return (← IO.getEnv name).map fun value => (name, value)
  let stamp := toString (← IO.monoMsNow)
  match reportIn environment arguments stamp with
  | .error failure =>
    IO.eprintln (failure.className ++ ": " ++ failure.message)
    return 1
  | .ok report =>
    IO.print report.output
    IO.eprint report.errors
    match report.result with
    | .ok status => return status.toNat.toUInt32
    | .error failure =>
      IO.eprintln (failure.className ++ ": " ++ failure.message)
      return 1
