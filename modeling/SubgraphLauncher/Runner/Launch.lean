import SubgraphLauncher.Command
import SubgraphLauncher.Runner.Basic

/-!
# Launching a subgraph

A launch is refused for one of three reasons before the host is asked: the name is in use, the line
holds no command, or the command is not installed. Only a launch that succeeds is registered.
-/

namespace SubgraphLauncher

open RunnerAction

variable {τ σ : Type}

/-- Launches a process: its identifier and its place among the children. -/
def launchProcess [Moment τ] (command : Command) : RunnerAction τ σ (Int × Nat) := do
  let processes ← processes
  Action.emit (.launched command.argv (allLaunchOptions processes.platform))
  match processes.launchFault? command.executable with
  | some failure =>
    if failure.isIn .system || failure.isIn .value then
      record .error .launch ("Failed to start `" ++ String.intercalate " " command.argv ++ "`: " ++
        failure.message)
      fail (.spawnFailure command.argv failure.message)
    else Action.raise failure
  | none =>
    let (pid, after) := processes.launch
    setProcesses after
    record .debug .launch (command.executable ++ " started with PID: " ++ toString pid)
    return (pid, processes.children.length)

def spawn [Moment τ] (setup : RunnerSetup τ σ) (name line : String) : RunnerAction τ σ Unit := do
  if (← Action.current).registry.tracks name then fail (.duplicateTask name)
  match Command.parse? line with
  | none => fail .emptyCommand
  | some command =>
    if !setup.isInstalled command.executable then fail (.executableNotFound command.executable)
    record .info .runner ("Starting `" ++ trimmed line ++ "`")
    let (pid, child) ← launchProcess command
    setTasks ((← tasks) ++ [⟨name, pid, child⟩])
    record .info .runner ("Subgraph '" ++ name ++ "' started with PID: " ++ toString pid)

end SubgraphLauncher
