import SubgraphLauncher.Runner.Launch

/-!
# Discovering the endpoint of a subgraph

A discovery notes which endpoints there are, launches the command, and scans until an endpoint shows
up that is none of those. Where several do, the chooser decides; where it cannot, the scan counts as
empty and scanning goes on. Between two scans the runner pauses, but never beyond its deadline, and
no pause is the last thing it does: the deadline is tested right after a scan.
-/

namespace SubgraphLauncher

open RunnerAction

variable {τ σ : Type}

/-- The candidate at an index of either sign, if the index is one of the list. -/
def candidateAt? (candidates : List Endpoint) (index : Int) : Option Endpoint :=
  if 0 ≤ index then candidates[index.toNat]? else none

/-- The endpoint that a list of candidates stands for. One candidate stands for itself; among
several the chooser decides, and its failures and wrong indices decide for none. -/
def pick [Moment τ] (chooser : Chooser τ σ) (candidates : List Endpoint) :
    RunnerAction τ σ (Option Endpoint) :=
  match candidates with
  | [] => pure none
  | [endpoint] => pure (some endpoint)
  | several => do
    record .debug .runner (toString several.length ++ " candidate endpoints: " ++
      String.intercalate ", " (several.map (·.url)))
    Action.emit (.asked several)
    match ← (consult (chooser.choose several)).attempt with
    | .error failure =>
      if failure.isAborted then
        record .debug .runner ("Endpoint selection aborted: " ++ failure.message)
        return none
      else if failure.isOrdinary then
        record .debug .runner ("Endpoint selection failed: " ++ failure.written)
        return none
      else Action.raise failure
    | .ok index =>
      match candidateAt? several index with
      | some endpoint => return some endpoint
      | none =>
        record .debug .runner ("Chooser returned out-of-range index " ++ toString index)
        return none

/-- Pauses for a duration, which has to be finite: a host refuses a pause that is endless or no
number with failures that are left out here, as it refuses a negative one. -/
def pause [Moment τ] (duration : τ) (patient : Bool) : RunnerAction τ σ Unit := do
  if duration < 0 then Action.raise (.valueError "sleep length must be non-negative")
  Action.emit (.slept duration)
  Action.change fun world => { world with paused := world.paused + 1 }
  let world ← Action.current
  if !patient || world.patience.interruptAt == some world.paused then Action.raise .interrupt
  RunnerAction.pass duration

/-- What is left of the time for a discovery that started at a given moment. -/
def remainingTime [Moment τ] (timeout : Option τ) (started : τ) : RunnerAction τ σ τ := do
  let now ← now
  match timeout with
  | none => Action.raise (.missingOperand "-" "NoneType" "float")
  | some timeout => return timeout - (now - started)

def nextPause [Moment τ] (interval : Option τ) (remaining : τ) : RunnerAction τ σ τ :=
  match interval with
  | none => Action.raise .missingComparison
  | some interval => pure (shorter interval remaining)

def timeOut [Moment τ] (setup : RunnerSetup τ σ) (name : String) : RunnerAction τ σ Endpoint :=
  match setup.timeout with
  | none => Action.raise (.missingOperand "-" "NoneType" "float")
  | some timeout => do
    record .error .runner ("No GraphQL endpoint for subgraph '" ++ name ++ "' after " ++
      Moment.brief timeout ++ " seconds")
    fail (.discoveryTimeout name timeout)

/-- Scans once and picks. A scan that resolves ends the discovery, and so does the deadline; `again`
goes on after a pause of the given length. -/
def scanThen [Moment τ] (setup : RunnerSetup τ σ) (scanner : Scanner τ σ) (name : String)
    (baseline : List Endpoint) (started : τ) (again : τ → RunnerAction τ σ Endpoint) :
    RunnerAction τ σ Endpoint := do
  Action.emit (.scanned baseline)
  let candidates ← consult (scanner.scan baseline)
  match ← pick setup.chooser candidates with
  | some endpoint =>
    record .info .runner ("Found GraphQL endpoint " ++ endpoint.url ++ " for subgraph '" ++ name ++
      "'")
    return endpoint
  | none =>
    let remaining ← remainingTime setup.timeout started
    if remaining ≤ 0 then timeOut setup name
    else again (← nextPause setup.interval remaining)

/-- Scans again and again, while there is time and the user has patience for another pause. -/
def search [Moment τ] (setup : RunnerSetup τ σ) (scanner : Scanner τ σ) (name : String)
    (baseline : List Endpoint) (started : τ) : Nat → RunnerAction τ σ Endpoint
  | 0 => scanThen setup scanner name baseline started fun duration => do
    pause duration false
    Action.raise .interrupt
  | pauses + 1 => scanThen setup scanner name baseline started fun duration => do
    pause duration true
    search setup scanner name baseline started pauses

/-- The endpoints that a discovery never takes for new, each once and in the order of their URLs. -/
def baselineOf (here known : List Endpoint) : List Endpoint :=
  Endpoint.sort (here ++ known).eraseDups

def discover [Moment τ] (setup : RunnerSetup τ σ) (scanner : Scanner τ σ) (name line : String)
    (known : List Endpoint) : RunnerAction τ σ Endpoint := do
  Action.emit .surveyed
  let here ← consult scanner.survey
  spawn setup name line
  let started ← now
  let patience := (← Action.current).patience
  search setup scanner name (baselineOf here known) started patience.pauses

end SubgraphLauncher
