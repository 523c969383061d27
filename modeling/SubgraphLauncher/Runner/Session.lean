import SubgraphLauncher.Runner.Discover
import SubgraphLauncher.Runner.Teardown

/-!
# Sessions

What can happen to a runner, step by step: it is used, it is left or dropped, and the host changes
behind its back. Dropping a runner tears it down once and puts a new one in its place, on the same
host and with the desk of its partners in order again.
-/

namespace SubgraphLauncher

open RunnerAction

variable {τ σ : Type}

inductive Step (τ σ : Type)
  | spawn (name line : String)
  | discover (name line : String) (scanner : Scanner τ σ) (known : List Endpoint)
  | pick (candidates : List Endpoint)
  | teardown
  | leave (failure : Option (Failure τ))
  | discard
  | tracks (name : String)
  | poll (name : String)
  | describe (name : String)
  | inspect (pid : Int)
  | pass (duration : τ)
  | alter (pid : Int) (exitCode : Option Int) (hidden : Option Bool)

inductive StepResult
  | done
  | found (endpoint : Endpoint)
  | picked (endpoint : Option Endpoint)
  | tracked (answer : Bool)
  | exitCode (code : Option Int)
  | text (text : String)
  | table (size : Nat) (listed : Bool)

/-- The task of a name, which has to be there. -/
def requireTask (name : String) : RunnerAction τ σ Task := do
  match (← Action.current).registry.task? name with
  | some task => return task
  | none => Action.raise (.other .keyError (some name))

/-- Tears down on leaving the block of a runner. A failure inside goes on, unless the teardown fails
as well. -/
def leave [Moment τ] (notifier : Notifier τ σ) (failure : Option (Failure τ)) :
    RunnerAction τ σ Unit := do
  teardown notifier
  match failure with
  | some failure => Action.raise failure
  | none => pure ()

/-- What held the children of a runner goes with it, and looks at them on its way out. -/
def release : RunnerAction τ σ Unit := do
  setProcesses (← processes).lookAtAll

/-- A new runner on the same host, with the desk put in order. -/
def renew (tidy : σ → σ) : RunnerAction τ σ Unit :=
  Action.change fun world =>
    { world with
      registry := Registry.empty
      scene := { world.scene with desk := tidy world.scene.desk } }

def Step.run [Moment τ] (setup : RunnerSetup τ σ) (tidy : σ → σ) :
    Step τ σ → RunnerAction τ σ StepResult
  | .spawn name line => do
    SubgraphLauncher.spawn setup name line
    return .done
  | .discover name line scanner known => do
    return .found (← SubgraphLauncher.discover setup scanner name line known)
  | .pick candidates => do return .picked (← SubgraphLauncher.pick setup.chooser candidates)
  | .teardown => do
    SubgraphLauncher.teardown setup.notifier
    return .done
  | .leave failure => do
    SubgraphLauncher.leave setup.notifier failure
    return .done
  | .discard => do
    finalize setup.notifier
    release
    renew tidy
    return .done
  | .tracks name => do return .tracked ((← Action.current).registry.tracks name)
  | .poll name => do return .exitCode (← pollTask (← requireTask name))
  | .describe name => do
    return .text ("BackgroundTask(pid=" ++ toString (← requireTask name).pid ++ ")")
  | .inspect pid => do
    let snapshot := (← Action.current).registry.snapshot
    return .table snapshot.length (snapshot.contains pid)
  | .pass duration => do
    RunnerAction.pass duration
    return .done
  | .alter pid exitCode hidden => do
    setProcesses ((← processes).update pid fun child =>
      { child with
        exitCode := exitCode.orElse fun _ => child.exitCode
        hidden := hidden.getD child.hidden })
    return .done

end SubgraphLauncher
