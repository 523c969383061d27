import SubgraphLauncher.Host.Network

/-!
# Partners of the runner

The runner depends on three partners and knows of each no more than one or two questions. A scanner
finds endpoints, a chooser picks one of several, and a notifier announces that a subgraph goes away.
-/

namespace SubgraphLauncher

/-- Finds the endpoints of the machine: all of them, and those that serve GraphQL on sockets which
none of the known endpoints covers. -/
structure Scanner (τ σ : Type) where
  survey : PartnerAction τ σ (List Endpoint)
  scan : List Endpoint → PartnerAction τ σ (List Endpoint)

/-- Picks one of several candidates and answers with its index. -/
structure Chooser (τ σ : Type) where
  choose : List Endpoint → PartnerAction τ σ Int

structure Notifier (τ σ : Type) where
  announce : String → PartnerAction τ σ Unit

/-- An endpoint that has to be one: otherwise the action fails on its text. -/
def requireEndpoint {τ σ : Type} (endpoint : Except EndpointFault Endpoint) :
    PartnerAction τ σ Endpoint :=
  match endpoint with
  | .ok endpoint => pure endpoint
  | .error fault => Action.raise (.valueError fault.message)

end SubgraphLauncher
