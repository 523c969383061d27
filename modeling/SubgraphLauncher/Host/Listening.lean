import SubgraphLauncher.Host.Network

/-!
# Listening sockets

The addresses on which the host accepts connections, each once. A host may refuse the question for
all processes together; then every process is asked, and those that cannot be looked at are passed
over.
-/

namespace SubgraphLauncher

variable {τ σ : Type}

structure SocketAddress where
  ip : String
  port : Int
  deriving DecidableEq, Repr

/-- The address of a socket that accepts connections now. -/
def Socket.address? [Moment τ] (now : τ) (socket : Socket τ) : Option SocketAddress :=
  if socket.span.covers now && socket.status == listenStatus then
    socket.ip.map fun ip => ⟨ip, socket.port⟩
  else none

def listeningAmong [Moment τ] (now : τ) (sockets : List (Socket τ)) : List SocketAddress :=
  sockets.filterMap (Socket.address? now)

/-- Whether a process that cannot be looked at is passed over. -/
def ProcessFault.isSkipped : ProcessFault → Bool
  | denied => true
  | gone => true
  | zombie => true
  | unknown => false
  | notPermitted => false

/-- Asks process after process; a fault that is not passed over ends the listing. -/
def listeningByProcess [Moment τ] (now : τ) :
    List (HostProcess τ) → PartnerAction τ σ (List SocketAddress)
  | [] => pure []
  | process :: rest =>
    match process.fault with
    | some fault =>
      if fault.isSkipped then listeningByProcess now rest
      else Action.raise (.process fault process.pid)
    | none => do
      return listeningAmong now process.sockets ++ (← listeningByProcess now rest)

def listening [Moment τ] : PartnerAction τ σ (List SocketAddress) := do
  let network ← PartnerAction.network
  if network.listingDenied then
    PartnerAction.note .scanner
      "System-wide socket listing denied, falling back to per-process listing."
    if network.processesDenied then Action.raise (.process .denied 0)
    return (← listeningByProcess network.now network.running).eraseDups
  else return (listeningAmong network.now network.sockets).eraseDups

end SubgraphLauncher
