import SubgraphLauncher.Host.Listening
import SubgraphLauncher.Host.Request
import SubgraphLauncher.Partner.Basic

/-!
# Probing for GraphQL

An endpoint serves GraphQL when it answers a small query with an object of data. On one address the
configured paths are tried in order, and each request may take as long as a single probe is allowed
and as the deadline of the scan leaves.
-/

namespace SubgraphLauncher

variable {τ σ : Type}

/-- How a scanner probes. Numbers may be missing from the settings, and so may be the texts among
the paths; both are noticed when they are needed. -/
structure ProbePlan (τ : Type) where
  timeout : Option τ
  paths : List Value
  budget : Option τ

def probeQuery : String := "query \x7b __typename \x7d"

def probeBody : Value := .object [(.text "query", .text probeQuery)]

/-- Whether a document is a GraphQL answer to the probe. -/
def answersProbe (document : Value) : Bool :=
  match document.member? "data" with
  | some data => (data.member? "__typename").isSome
  | none => false

/-- Whether an endpoint answers the probe. A request that fails, or a body that cannot be read, only
means that it does not. -/
def servesGraphQL [Moment τ] (endpoint : Endpoint) (timeout : Option τ) :
    PartnerAction τ σ Bool := do
  let probe : PartnerAction τ σ Value := do
    let response ← post endpoint.url probeBody timeout
    response.requireSuccess
    response.document
  match ← probe.attempt with
  | .ok document => return answersProbe document
  | .error failure =>
    if failure.isIn .request || failure.isIn .value then
      PartnerAction.note .scanner
        (endpoint.url ++ " did not answer the GraphQL probe: " ++ failure.message)
      return false
    else Action.raise failure

def requirePath (path : Value) : PartnerAction τ σ String :=
  match path.text? with
  | some s => pure s
  | none => Action.raise (.missingAttribute path.typeName "startswith")

/-- Tries the paths of one address until one serves GraphQL or the deadline has come. -/
def probePaths [Moment τ] (timeout : Option τ) (deadline : τ) (address : SocketAddress) :
    List Value → PartnerAction τ σ (Option Endpoint)
  | [] => pure none
  | path :: rest => do
    let remaining := deadline - (← PartnerAction.now)
    if remaining ≤ 0 then return none
    let text ← requirePath path
    let endpoint ← requireEndpoint (Endpoint.ofSocket address.ip address.port text)
    match timeout with
    | none => Action.raise .missingComparison
    | some limit =>
      if ← servesGraphQL endpoint (some (shorter limit remaining)) then return some endpoint
      else probePaths timeout deadline address rest

end SubgraphLauncher
