import SubgraphLauncher.Partner.Basic

/-!
# Partners that follow a script

A scripted partner answers from a list that it keeps on the desk; the last entry is repeated. Such
partners put the runner into any situation that real ones could bring about.
-/

namespace SubgraphLauncher

variable {τ σ : Type}

/-- A script's answer: a value, or a failure. -/
abbrev Scripted (τ α : Type) : Type := Except (Failure τ) α

/-- Takes the next entry of a script and leaves the rest, of which the last entry stays. -/
def nextEntry {α : Type} (script : List α) : Option α × List α :=
  match script with
  | [] => (none, [])
  | [entry] => (some entry, [entry])
  | entry :: rest => (some entry, rest)

def Chooser.scripted (replies : Slot σ (List (Scripted τ Int))) : Chooser τ σ where
  choose _ := do
    let (entry, rest) := nextEntry (← PartnerAction.fetch replies)
    PartnerAction.keep replies rest
    match entry with
    | none => Action.raise (.other ⟨"IndexError", []⟩ (some "list index out of range"))
    | some (.ok index) => return index
    | some (.error failure) => Action.raise failure

/-- The endpoints of some URLs; the first that is none fails. -/
def endpointsOf : List String → PartnerAction τ σ (List Endpoint)
  | [] => pure []
  | url :: rest => do
    let endpoint ← requireEndpoint (Endpoint.ofUrl url)
    return endpoint :: (← endpointsOf rest)

/-- A scanner whose scans serve the entries of a script, less the endpoints already known. -/
def Scanner.scripted (here : List Endpoint) (polls : Slot σ (List (List Endpoint))) :
    Scanner τ σ where
  survey := pure here
  scan known := do
    let (entry, rest) := nextEntry (← PartnerAction.fetch polls)
    PartnerAction.keep polls rest
    return (entry.getD []).filter fun endpoint => !known.contains endpoint

/-- A notifier that fails for the names of a script. -/
def Notifier.scripted (failing : List (String × Failure τ)) : Notifier τ σ where
  announce name :=
    match failing.find? fun entry => entry.1 == name with
    | some (_, failure) => Action.raise failure
    | none => pure ()

end SubgraphLauncher
