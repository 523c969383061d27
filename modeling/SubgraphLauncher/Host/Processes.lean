import SubgraphLauncher.Failure
import SubgraphLauncher.Value.Basic

/-!
# Launching and signalling processes

The host gives every launched child an identifier, and may give one that it has given before. A
child runs until it has an exit code. On a host where children linger, one that has ended stays
among the processes, where it can still be signalled, until somebody reads its exit code. A launch
may fail, for an executable, and so may a signal, for an identifier.

Signals are taken to work at once: a running child whose signal is delivered has ended when the
program goes on. A real host may take a moment.
-/

namespace SubgraphLauncher

variable {τ : Type}

structure Child where
  pid : Int
  exitCode : Option Int
  /-- The host does not list the child among its processes. -/
  hidden : Bool
  /-- The exit code has been read. -/
  reaped : Bool
  deriving DecidableEq, Repr

/-- A child that was looked at: its exit code has been read if it has one. -/
def Child.seen (child : Child) : Child :=
  { child with reaped := child.reaped || child.exitCode.isSome }

/-- The part of the host that runs children. -/
structure Processes (τ : Type) where
  children : List Child
  /-- Identifiers that are given next; after them the host counts up from `nextPid`. -/
  reservedPids : List Int
  nextPid : Int
  launchFaults : List (String × Failure τ)
  signalFaults : List (Int × ProcessFault)
  platform : String
  /-- A child that has ended stays among the processes until its exit code is read. -/
  lingering : Bool

namespace Processes

/-- A child that is among the processes of the host: one that is running, or lingers. -/
def isListed (processes : Processes τ) (child : Child) : Bool :=
  !child.hidden && (child.exitCode.isNone || processes.lingering && !child.reaped)

/-- The identifiers of the children that the host lists. -/
def listedPids (processes : Processes τ) : List Int :=
  (processes.children.filter processes.isListed).map (·.pid)

def launchFault? (processes : Processes τ) (executable : String) : Option (Failure τ) :=
  (processes.launchFaults.find? fun entry => entry.1 == executable).map (·.2)

def signalFault? (processes : Processes τ) (pid : Int) : Option ProcessFault :=
  (processes.signalFaults.find? fun entry => entry.1 == pid).map (·.2)

/-- Adds a running child: its identifier, and the processes with it. -/
def launch (processes : Processes τ) : Int × Processes τ :=
  match processes.reservedPids with
  | pid :: rest =>
    (pid, { processes with
      reservedPids := rest, children := processes.children ++ [⟨pid, none, false, false⟩] })
  | [] =>
    (processes.nextPid, { processes with
      nextPid := processes.nextPid + 1
      children := processes.children ++ [⟨processes.nextPid, none, false, false⟩] })

def signalledCode : Int := -9

/-- A signal ends every running child with the identifier. -/
def kill (processes : Processes τ) (pid : Int) : Processes τ :=
  { processes with
    children := processes.children.map fun child =>
      if child.pid = pid ∧ child.exitCode = none then { child with exitCode := some signalledCode }
      else child }

/-- Looks at the child at a place. -/
def look (processes : Processes τ) (place : Nat) : Processes τ :=
  { processes with children := processes.children.modify place Child.seen }

/-- Looks at every child. -/
def lookAtAll (processes : Processes τ) : Processes τ :=
  { processes with children := processes.children.map Child.seen }

/-- Running children end by themselves, each with the exit code of its identifier if it has one. -/
def lapse (processes : Processes τ) (exits : Int → Option Int) : Processes τ :=
  { processes with
    children := processes.children.map fun child =>
      { child with exitCode := child.exitCode.or (exits child.pid) } }

def update (processes : Processes τ) (pid : Int) (f : Child → Child) : Processes τ :=
  { processes with
    children := processes.children.map fun child => if child.pid = pid then f child else child }

end Processes

/-- What a platform needs in addition at every launch. Where a child would draw on the console of
this program, its output is discarded and no window is opened. -/
def launchOptions (platform : String) : List (String × Value) :=
  if platform = "win32" then
    [("stdout", .text "DEVNULL"), ("stderr", .text "DEVNULL"), ("creationflags", .int 134217728)]
  else []

/-- The options of a launch: a child reads nothing. -/
def allLaunchOptions (platform : String) : List (String × Value) :=
  ("stdin", .text "DEVNULL") :: launchOptions platform

end SubgraphLauncher
