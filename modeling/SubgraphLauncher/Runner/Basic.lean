import SubgraphLauncher.Host.Processes
import SubgraphLauncher.Partner.Basic

/-!
# The runner and its world

The runner tracks one task per name, in the order in which they were started, and a snapshot of the
processes of the host. Its partners share the network with it, but they see neither its tasks nor
its children: they run on the scene alone, and their events are marked as theirs.
-/

namespace SubgraphLauncher

variable {τ σ α : Type}

/-- A named subgraph with its process. `child` is the place of the process among the children that
were launched, which tells it from another one with the same identifier. -/
structure Task where
  name : String
  pid : Int
  child : Nat
  deriving DecidableEq, Repr

structure Registry where
  tasks : List Task
  snapshot : List Int
  deriving DecidableEq, Repr

def Registry.empty : Registry := ⟨[], []⟩

/-- When the user interrupts a pause: at the pause with a given number, counted over the whole run,
and once a single discovery has paused more often than the user has patience for. -/
structure Patience where
  interruptAt : Option Nat
  pauses : Nat

structure World (τ σ : Type) where
  scene : Scene τ σ
  processes : Processes τ
  patience : Patience
  paused : Nat
  registry : Registry

/-- The partners and the numbers that a runner works with. A number may be missing from the
settings, which is noticed when it is needed. -/
structure RunnerSetup (τ σ : Type) where
  notifier : Notifier τ σ
  chooser : Chooser τ σ
  isInstalled : String → Bool
  timeout : Option τ
  interval : Option τ

abbrev RunnerAction (τ σ α : Type) : Type := Action (Event τ) (World τ σ) (Failure τ) α

namespace RunnerAction

/-- Lets a partner act. -/
def consult (action : PartnerAction τ σ α) : RunnerAction τ σ α :=
  action.within World.scene (fun scene world => { world with scene }) .partner

def record (level : Level) (source : Source) (message : String) : RunnerAction τ σ Unit :=
  Action.emit (.record ⟨level, source, message⟩)

def now : RunnerAction τ σ τ := do return (← Action.current).scene.network.now

def processes : RunnerAction τ σ (Processes τ) := do return (← Action.current).processes

def tasks : RunnerAction τ σ (List Task) := do return (← Action.current).registry.tasks

def setProcesses (processes : Processes τ) : RunnerAction τ σ Unit :=
  Action.change fun world => { world with processes }

def setTasks (tasks : List Task) : RunnerAction τ σ Unit :=
  Action.change fun world => { world with registry := { world.registry with tasks } }

def pass [Moment τ] (duration : τ) : RunnerAction τ σ Unit :=
  Action.change fun world =>
    let network := world.scene.network
    { world with
      scene := { world.scene with network := { network with now := network.now + duration } } }

def fail (cause : TaskFailure τ) : RunnerAction τ σ α := Action.raise (.task cause)

end RunnerAction

def Registry.tracks (registry : Registry) (name : String) : Bool :=
  registry.tasks.any fun task => task.name == name

def Registry.task? (registry : Registry) (name : String) : Option Task :=
  registry.tasks.find? fun task => task.name == name

end SubgraphLauncher
