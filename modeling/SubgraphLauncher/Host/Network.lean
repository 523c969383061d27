import SubgraphLauncher.Action
import SubgraphLauncher.Event

/-!
# The network of the host

What the partners of the runner can see of the host: its clock, its sockets and the services that
answer behind them. Everything may depend on the time: sockets and answers come and go. Only waiting
for an answer lets time pass.

A partner keeps what it has to remember on a desk of its own, beside the network.
-/

namespace SubgraphLauncher

variable {τ σ : Type}

/-- A span of time; a bound that is missing does not end it. The end is not part of it. -/
structure Span (τ : Type) where
  start : Option τ
  stop : Option τ

def Span.covers [Moment τ] (span : Span τ) (now : τ) : Bool :=
  (match span.start with
    | none => true
    | some start => decide (start ≤ now)) &&
  match span.stop with
  | none => true
  | some stop => decide (now < stop)

/-- The status of a socket that accepts connections. -/
def listenStatus : String := "LISTEN"

/-- A socket of the host, which may have no local address. -/
structure Socket (τ : Type) where
  ip : Option String
  port : Int
  status : String
  span : Span τ

/-- A process of the host that the runner has not launched. -/
structure HostProcess (τ : Type) where
  pid : Int
  sockets : List (Socket τ)
  fault : Option ProcessFault
  span : Span τ

/-- How a service answers: after a delay, with a response or a failure, or never. -/
structure Answer (τ : Type) where
  status : Int
  reason : String
  body : String
  delay : τ
  hangs : Bool
  failure : Option (Failure τ)
  span : Span τ

structure Network (τ : Type) where
  now : τ
  sockets : List (Socket τ)
  /-- The host refuses to list the sockets of all processes at once. -/
  listingDenied : Bool
  processes : List (HostProcess τ)
  /-- The host refuses to list its processes. -/
  processesDenied : Bool
  services : List (String × List (Answer τ))

/-- The network with the desk on which partners keep their notes. -/
structure Scene (τ σ : Type) where
  network : Network τ
  desk : σ

abbrev PartnerAction (τ σ α : Type) : Type :=
  Action (PartnerEvent τ) (Scene τ σ) (Failure τ) α

/-- A place on the desk. -/
structure Slot (σ α : Type) where
  get : σ → α
  put : α → σ → σ

/-- The processes of the host at this moment. -/
def Network.running [Moment τ] (network : Network τ) : List (HostProcess τ) :=
  network.processes.filter fun process => process.span.covers network.now

namespace PartnerAction

def note (source : Source) (message : String) : PartnerAction τ σ Unit :=
  Action.emit (.note source message)

def network : PartnerAction τ σ (Network τ) := do return (← Action.current).network

def now : PartnerAction τ σ τ := do return (← network).now

def pass [Moment τ] (duration : τ) : PartnerAction τ σ Unit :=
  Action.change fun scene =>
    { scene with network := { scene.network with now := scene.network.now + duration } }

def fetch {α : Type} (slot : Slot σ α) : PartnerAction τ σ α := do
  return slot.get (← Action.current).desk

def keep {α : Type} (slot : Slot σ α) (value : α) : PartnerAction τ σ Unit :=
  Action.change fun scene => { scene with desk := slot.put value scene.desk }

end PartnerAction

end SubgraphLauncher
