import SubgraphLauncher.Partner.Probe

/-!
# Scanning the sockets of the host

A scan probes the listening sockets that no known endpoint covers, port by port. It stops when its
budget is spent and leaves a cursor behind, so that the next scan begins with the port after the
last one probed and a socket that never answers cannot hide the others. On one port the addresses
are tried in order of preference, and the first endpoint that answers stands for the port.
-/

namespace SubgraphLauncher

variable {τ σ : Type}

/-- Loopback and wildcard addresses come first, then other addresses without a colon, then the
rest. -/
def addressRank (ip : String) : Nat :=
  if ip = "127.0.0.1" ∨ ip = "0.0.0.0" then 0 else if ip.toList.contains ':' then 2 else 1

/-- Whether an address is tried no later than another on the same port. -/
def preferred (a b : SocketAddress) : Bool :=
  decide (addressRank a.ip < addressRank b.ip) ||
    (addressRank a.ip == addressRank b.ip && !decide (b.ip < a.ip))

/-- The ports of some addresses in increasing order, each once. -/
def portsOf (addresses : List SocketAddress) : List Int :=
  ((addresses.map (·.port)).eraseDups).mergeSort fun a b => decide (a ≤ b)

def addressesOn (addresses : List SocketAddress) (port : Int) : List SocketAddress :=
  (addresses.filter fun address => address.port == port).mergeSort preferred

/-- A list that begins at an index and continues from the front. -/
def rotate {α : Type} (xs : List α) (start : Nat) : List α := xs.drop start ++ xs.take start

/-- The addresses whose origin is none of those given. -/
def uncovered (origins : List Endpoint) :
    List SocketAddress → PartnerAction τ σ (List SocketAddress)
  | [] => pure []
  | address :: rest => do
    let endpoint ← requireEndpoint (Endpoint.ofSocket address.ip address.port "/")
    let origin ← requireEndpoint endpoint.origin
    let more ← uncovered origins rest
    return if origins.contains origin then more else address :: more

def originsOf : List Endpoint → PartnerAction τ σ (List Endpoint)
  | [] => pure []
  | endpoint :: rest => do
    let origin ← requireEndpoint endpoint.origin
    return origin :: (← originsOf rest)

/-- The first endpoint that serves GraphQL on one of the addresses. -/
def probePort [Moment τ] (plan : ProbePlan τ) (deadline : τ) :
    List SocketAddress → PartnerAction τ σ (Option Endpoint)
  | [] => pure none
  | address :: rest => do
    match ← probePaths plan.timeout deadline address plan.paths with
    | some endpoint => return some endpoint
    | none => probePort plan deadline rest

def budgetNote [Moment τ] (budget : τ) (probed total : Nat) : String :=
  "Scan budget of " ++ Moment.brief budget ++ "s spent after " ++ toString probed ++ " of " ++
    toString total ++ " ports."

/-- A scan under way: what it needs at every port. -/
structure Sweep (τ : Type) where
  plan : ProbePlan τ
  budget : τ
  deadline : τ
  addresses : List SocketAddress
  start : Nat
  total : Nat

/-- Probes ports in turn, after the number of ports already probed. Where the deadline has come and
ports are left, the cursor is set behind the last port. -/
def sweepPorts [Moment τ] (sweep : Sweep τ) (cursor : Slot σ Nat) (probed : Nat) :
    List Int → PartnerAction τ σ (List Endpoint)
  | [] => pure []
  | port :: rest => do
    let found ← probePort sweep.plan sweep.deadline (addressesOn sweep.addresses port)
    let now ← PartnerAction.now
    if sweep.deadline ≤ now ∧ rest ≠ [] then
      PartnerAction.note .scanner (budgetNote sweep.budget (probed + 1) sweep.total)
      PartnerAction.keep cursor (sweep.start + (probed + 1))
      return found.toList
    else return found.toList ++ (← sweepPorts sweep cursor (probed + 1) rest)

/-- The GraphQL endpoints on sockets that no known endpoint covers, in the order of their URLs. -/
def scanSockets [Moment τ] (plan : ProbePlan τ) (cursor : Slot σ Nat) (known : List Endpoint) :
    PartnerAction τ σ (List Endpoint) := do
  let origins ← originsOf known
  let addresses ← uncovered origins (← listening)
  let ports := portsOf addresses
  if ports.isEmpty then return []
  let start := (← PartnerAction.fetch cursor) % ports.length
  match plan.budget with
  | none => Action.raise (.missingOperand "+" "float" "NoneType")
  | some budget =>
    let deadline := (← PartnerAction.now) + budget
    let sweep : Sweep τ := ⟨plan, budget, deadline, addresses, start, ports.length⟩
    return Endpoint.sort (← sweepPorts sweep cursor 0 (rotate ports start))

/-- The endpoints of all listening sockets, each once. -/
def surveySockets [Moment τ] : PartnerAction τ σ (List Endpoint) := do
  let endpoints ← (← listening).mapM fun address =>
    requireEndpoint (Endpoint.ofSocket address.ip address.port "/")
  return endpoints.eraseDups

/-- The scanner of the host's sockets, with its cursor on the desk. -/
def Scanner.ofSockets [Moment τ] (plan : ProbePlan τ) (cursor : Slot σ Nat) : Scanner τ σ where
  survey := surveySockets
  scan := scanSockets plan cursor

end SubgraphLauncher
