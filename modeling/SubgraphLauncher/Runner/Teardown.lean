import SubgraphLauncher.Runner.Basic

/-!
# Tearing down

A teardown takes one snapshot of the processes, then announces and signals task after task, and
last looks at every child once, without waiting, so that none of those that ended lingers. Failures
of single notices and signals only lead to warnings. The registry is emptied at the very end, so a
pass that was cut short can be made again.
-/

namespace SubgraphLauncher

open RunnerAction

variable {τ σ : Type}

/-- Reads the processes of the host anew: those it had before and the children it lists. -/
def refreshSnapshot [Moment τ] : RunnerAction τ σ Unit := do
  let world ← Action.current
  let network := world.scene.network
  if network.processesDenied then Action.raise (.process .denied 0)
  let pids := (network.running.map (·.pid) ++ world.processes.listedPids).eraseDups
  Action.change fun world => { world with registry := { world.registry with snapshot := pids } }
  record .debug .processes ("Process table refreshed: " ++ toString pids.length ++ " processes.")

def signal [Moment τ] (pid : Int) : RunnerAction τ σ Unit := do
  let processes ← processes
  match processes.signalFault? pid with
  | some fault =>
    Action.emit (.signalled pid (some fault))
    Action.raise (.process fault pid)
  | none =>
    Action.emit (.signalled pid none)
    setProcesses (processes.kill pid)

/-- Signals a process of the snapshot and tells whether the signal was delivered. Only a fault of
the process itself is taken for an answer. -/
def killProcess [Moment τ] (pid : Int) : RunnerAction τ σ Bool := do
  match ← (signal pid).attempt with
  | .ok _ => return true
  | .error failure =>
    match failure with
    | .process .notPermitted _ => Action.raise failure
    | .process .gone _ | .process .zombie _ =>
      record .debug .processes ("Process " ++ toString pid ++ " no longer exists, nothing to kill.")
      return false
    | .process _ _ =>
      record .debug .processes ("Kill request for PID " ++ toString pid ++ " failed: " ++
        failure.message)
      return false
    | other => Action.raise other

def announceTask [Moment τ] (notifier : Notifier τ σ) (task : Task) : RunnerAction τ σ Unit := do
  Action.emit (.announced task.name)
  match ← (consult (notifier.announce task.name)).attempt with
  | .ok _ => pure ()
  | .error failure =>
    if failure.isOrdinary then
      record .warning .runner ("Could not announce removal of subgraph '" ++ task.name ++ "': " ++
        failure.message)
    else Action.raise failure

/-- Announces a task and signals its process, where the snapshot has it. -/
def dropTask [Moment τ] (notifier : Notifier τ σ) (task : Task) : RunnerAction τ σ Unit := do
  announceTask notifier task
  if (← Action.current).registry.snapshot.contains task.pid then
    if !(← killProcess task.pid) then
      record .warning .runner ("Could not drop process with PID " ++ toString task.pid)
  else
    record .debug .runner ("Process for subgraph '" ++ task.name ++ "' (PID " ++
      toString task.pid ++ ") already exited.")

/-- Looks at the child of a task and yields its exit code if it has one. -/
def pollTask (task : Task) : RunnerAction τ σ (Option Int) := do
  Action.emit (.polled task.pid)
  let processes ← processes
  setProcesses (processes.look task.child)
  return (processes.children[task.child]?).bind (·.exitCode)

def dropAll [Moment τ] (notifier : Notifier τ σ) : List Task → RunnerAction τ σ Unit
  | [] => pure ()
  | task :: rest => do
    dropTask notifier task
    dropAll notifier rest

def pollAll : List Task → RunnerAction τ σ Unit
  | [] => pure ()
  | task :: rest => do
    let _ ← pollTask task
    pollAll rest

/-- Announces and signals every task and empties the registry; nothing happens where it is empty. -/
def teardown [Moment τ] (notifier : Notifier τ σ) : RunnerAction τ σ Unit := do
  let tasks ← tasks
  if tasks.isEmpty then return
  record .info .runner ("Dropping " ++ toString tasks.length ++ " spawned background tasks")
  refreshSnapshot
  dropAll notifier tasks
  pollAll tasks
  setTasks []
  record .info .runner "Done dropping tasks"

/-- The teardown of a runner that is no longer referred to. It cannot fail; what would have been its
failure is only seen. -/
def finalize [Moment τ] (notifier : Notifier τ σ) : RunnerAction τ σ Unit := do
  match ← (teardown notifier).attempt with
  | .ok _ => pure ()
  | .error failure => Action.emit (.ignored failure)

end SubgraphLauncher
