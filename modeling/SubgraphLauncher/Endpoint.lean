import SubgraphLauncher.Text.Quoted
import SubgraphLauncher.Url.Split

/-!
# Endpoints

An endpoint is a URL with a scheme and an authority, kept as it was written. Two endpoints on one
socket differ by their text; they agree in their origin, which is what scanning goes by.
-/

namespace SubgraphLauncher

open SubgraphLauncher.Text (quoted)

inductive EndpointFault
  | url (fault : Url.Fault)
  | unqualified (url : String)
  deriving DecidableEq, Repr

def EndpointFault.message : EndpointFault → String
  | url .brackets => "Invalid IPv6 URL"
  | url .futureAddress => "IPvFuture address is invalid"
  | url (.noAddress host) =>
    quoted (String.ofList host) ++ " does not appear to be an IPv4 or IPv6 address"
  | url .fourInBrackets => "An IPv4 address cannot be in brackets"
  | url (.compatibility authority) =>
    "netloc '" ++ String.ofList authority ++
      "' contains invalid characters under NFKC normalization"
  | unqualified text => "'" ++ text ++ "' is not a fully-qualified URL"

/-- Splits a URL that has a scheme and an authority. -/
def qualifiedParts (url : String) : Except EndpointFault Url.Parts :=
  match Url.split url.toList with
  | .error fault => .error (.url fault)
  | .ok parts =>
    if parts.scheme.isEmpty || parts.authority.isEmpty then .error (.unqualified url) else .ok parts

structure Endpoint where
  url : String
  qualified : (qualifiedParts url).isOk = true
  deriving DecidableEq

namespace Endpoint

instance : ToString Endpoint := ⟨url⟩

instance : Repr Endpoint := ⟨fun e _ => e.url⟩

def ofUrl (url : String) : Except EndpointFault Endpoint :=
  match h : qualifiedParts url with
  | .error fault => .error fault
  | .ok _ => .ok ⟨url, by rw [h]; rfl⟩

/-- The parts that the check of an endpoint has found. -/
def parts (e : Endpoint) : Url.Parts :=
  match h : qualifiedParts e.url with
  | .ok parts => parts
  | .error _ => absurd e.qualified (by rw [h]; simp [Except.isOk, Except.toBool])

/-- An address that stands for every address of the machine is reached through loopback. -/
def reachableHost (host : String) : String :=
  if host = "0.0.0.0" then "127.0.0.1" else if host = "::" then "::1" else host

/-- A host as it stands in a URL: addresses of six groups go between brackets. -/
def hostText (host : String) : String :=
  match Url.version? host.toList with
  | some .six => "[" ++ host ++ "]"
  | _ => host

def socketUrl (host : String) (port : Int) (path : String) : String :=
  let rooted := if path.startsWith "/" then path else "/" ++ path
  "http://" ++ hostText (reachableHost host) ++ ":" ++ toString port ++ rooted

def ofSocket (host : String) (port : Int) (path : String) : Except EndpointFault Endpoint :=
  ofUrl (socketUrl host port path)

/-- The root of the server that an endpoint belongs to. -/
def origin (e : Endpoint) : Except EndpointFault Endpoint :=
  let parts := e.parts
  ofUrl (String.ofList parts.scheme ++ "://" ++ String.ofList parts.authority ++ "/")

def sort (endpoints : List Endpoint) : List Endpoint :=
  endpoints.mergeSort fun a b => !decide (b.url < a.url)

end Endpoint

end SubgraphLauncher
