import SubgraphLauncher.Endpoint
import SubgraphLauncher.Failure
import SubgraphLauncher.Value.Basic

/-!
# Events

A run is observed through its events. The scanner, the chooser and the notifier are partners of the
runner and can emit little: diagnostic notes, requests, and lines on the console. Whatever concerns
processes, and whatever is reported to the user at a higher level than a note, is the runner's own.
-/

namespace SubgraphLauncher

inductive Level
  | debug
  | info
  | warning
  | error
  deriving DecidableEq, Repr

def Level.number : Level → Int
  | debug => 10
  | info => 20
  | warning => 30
  | error => 40

/-- The parts of the program that write records. -/
inductive Source
  | program
  | settings
  | runner
  | launch
  | processes
  | scanner
  | chooser
  | notifier
  deriving DecidableEq, Repr

def Source.name : Source → String
  | program => "devrunner"
  | settings => "devrunner.config"
  | runner => "devrunner.runner.command_runner"
  | launch => "devrunner.runner.background_task"
  | processes => "devrunner.runner.process_utils"
  | scanner => "devrunner.discovery.netstat"
  | chooser => "devrunner.discovery.chooser"
  | notifier => "devrunner.notify_client"

structure Record where
  level : Level
  source : Source
  message : String
  deriving DecidableEq, Repr

/-- What a partner of the runner can be seen to do. -/
inductive PartnerEvent (τ : Type)
  | note (source : Source) (message : String)
  | post (url : String) (body : Value) (timeout : Option τ)
  | prompt (text : String)
  | line (text : String)

inductive Event (τ : Type)
  | partner (event : PartnerEvent τ)
  | record (record : Record)
  | launched (argv : List String) (options : List (String × Value))
  | polled (pid : Int)
  | signalled (pid : Int) (fault : Option ProcessFault)
  | slept (duration : τ)
  | waited
  | announced (name : String)
  | asked (candidates : List Endpoint)
  | surveyed
  | scanned (known : List Endpoint)
  | output (text : String)
  | ignored (failure : Failure τ)

def Event.record? {τ : Type} : Event τ → Option Record
  | .record r => some r
  | .partner (.note source message) => some ⟨.debug, source, message⟩
  | _ => none

end SubgraphLauncher
