import SubgraphLauncher.Journal.Basic
import SubgraphLauncher.Partner.Console
import SubgraphLauncher.Partner.SocketScanner
import SubgraphLauncher.Program.Flags
import SubgraphLauncher.Runner.Session
import SubgraphLauncher.Settings.Defaults

/-!
# The program

The program runs one subgraph under a name until the user interrupts it, with or without finding out
its endpoint. Its status is 0 after an interruption, 1 where the subgraph could not be run or found,
and 2 where the arguments do not name one. However it ends, what it has launched is torn down: on
leaving the block of the runner, and once more when the runner is dropped, for what may be left.
-/

namespace SubgraphLauncher

open RunnerAction

/-- What the program's partners keep: the place where the next scan begins, and the readings of the
input that are still to come. -/
structure Desk (τ : Type) where
  cursor : Nat
  readings : List (Reading τ)

namespace Desk

def cursorSlot {τ : Type} : Slot (Desk τ) Nat := ⟨cursor, fun cursor desk => { desk with cursor }⟩

def readingsSlot {τ : Type} : Slot (Desk τ) (List (Reading τ)) :=
  ⟨readings, fun readings desk => { desk with readings }⟩

end Desk

structure Program where
  arguments : List String
  settings : Settings
  terminal : Terminal
  isInstalled : String → Bool
  /-- How often the program has waited when the user interrupts it as it waits once more. -/
  waits : Nat
  /-- The exit codes of the children that end by themselves. -/
  exits : Int → Option Int

structure Report where
  result : Except (Failure Float) Int
  events : List (Event Float)
  journal : Journal
  /-- What the program leaves behind. -/
  world : World Float (Desk Float)

namespace Program

def usage : String := "usage: devrunner [--discover] [--verbose] <subgraph-name> <command...>"

def consoleLevel (program : Program) : Except (Failure Float) Int :=
  if (splitFlags program.arguments).1.contains .verbose then .ok Level.debug.number
  else match program.settings.text? .logLevel with
    | some name => .ok (Journal.levelOfName name)
    | none => .error (.missingAttribute "NoneType" "upper")

/-- The runner of the program, given where its notices go. -/
def runnerSetup (program : Program) (target : NoticeTarget Float) :
    RunnerSetup Float (Desk Float) where
  notifier := Notifier.ofTarget target
  chooser := Chooser.onConsole program.terminal true Desk.readingsSlot
  isInstalled := program.isInstalled
  timeout := program.settings.number? .discoveryTimeout
  interval := program.settings.number? .pollInterval

/-- Launches the subgraph. With the flag to discover, its endpoint is put out. -/
def start (program : Program) (setup : RunnerSetup Float (Desk Float)) (name line : String) :
    RunnerAction Float (Desk Float) Unit := do
  if (splitFlags program.arguments).1.contains .discover then
    let plan ← Action.ofExcept (ProbePlan.ofSettings program.settings none .null none)
    let endpoint ← discover setup (Scanner.ofSockets plan Desk.cursorSlot) name line []
    Action.emit (.output (name ++ ": " ++ endpoint.url))
  else spawn setup name line

/-- Waits until the user interrupts. -/
def wait : Nat → RunnerAction Float (Desk Float) Unit
  | 0 => Action.emit .waited
  | count + 1 => do
    Action.emit .waited
    wait count

/-- Launches the subgraph and stays until the user interrupts. Failures of the task are reported by
their kind, which is missed in one that has none; all others go on. -/
def serve (program : Program) (setup : RunnerSetup Float (Desk Float)) (name line : String) :
    RunnerAction Float (Desk Float) Int := do
  match ← (program.start setup name line).attempt with
  | .error (.task cause) =>
    record .error .program ("error[" ++ cause.kind ++ "]: " ++ cause.message)
    return 1
  | .error failure =>
    if failure.isIn .task then Action.raise (.missingAttribute failure.className "kind")
    else Action.raise failure
  | .ok _ =>
    record .info .program "Press Ctrl+C to stop."
    wait program.waits
    record .info .program "Interrupted, stopping background tasks."
    return 0

/-- Leaves the block of the runner. What the serving came to goes on, unless the teardown fails.
Nobody looks at the children before this, so it does not matter how early one has ended by then. -/
def part (program : Program) (notifier : Notifier Float (Desk Float))
    (served : Except (Failure Float) Int) : RunnerAction Float (Desk Float) Int := do
  setProcesses ((← processes).lapse program.exits)
  let torn ← (teardown notifier).attempt
  finalize notifier
  match torn with
  | .error failure => Action.raise failure
  | .ok _ => Action.ofExcept served

/-- Runs a command line under a name inside the block of a new runner. -/
def supervise (program : Program) (name line : String) : RunnerAction Float (Desk Float) Int := do
  let target ← Action.ofExcept (NoticeTarget.ofSettings program.settings none none)
  let setup := program.runnerSetup target
  renew (Desk.cursorSlot.put 0)
  let served ← (program.serve setup name line).attempt
  program.part setup.notifier served

/-- The name of the subgraph and its command line, where the arguments hold them. -/
def task? (program : Program) : Option (String × String) :=
  match (splitFlags program.arguments).2 with
  | name :: word :: words => some (name, String.intercalate " " (word :: words))
  | _ => none

/-- Runs the program on a host. The journal is set up before the arguments are looked at. -/
def run (program : Program) (world : World Float (Desk Float)) (journal : Journal) : Report :=
  match program.consoleLevel with
  | .error failure => ⟨.error failure, [], journal, world⟩
  | .ok level =>
    match journal.setUp level none (program.settings.value .logFile) with
    | (.error failure, journal) => ⟨.error failure, [], journal, world⟩
    | (.ok _, journal) =>
      match program.task? with
      | none => ⟨.ok 2, [], journal.print [Text.rowOf usage], world⟩
      | some (name, line) =>
        let outcome := program.supervise name line world
        { result := outcome.result
          events := outcome.events
          journal := outcome.events.foldl Journal.observe journal
          world := outcome.state }

end Program

namespace Report

/-- What an event puts out for the user. -/
def outputOf : Event Float → String
  | .output text => text ++ "\n"
  | .partner (.prompt text) => text
  | _ => ""

def output (report : Report) : String := String.join (report.events.map outputOf)

def errors (report : Report) : String :=
  String.join (report.journal.console.map fun line => Text.shownRow line ++ "\n")

end Report

end SubgraphLauncher
