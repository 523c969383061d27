import SubgraphLauncher.Host.Network

/-!
# Requests

A request is posted to a URL with a body and a limit on the time to wait. Nobody may answer, the
answer may come too late, or it may be an error. Each of these is a failure of the family of
requests, and so is a body that cannot be read.

Two things are assumed of what carries a request. It may follow redirections, but these are its own
affair: one request has one answer, that of the last service. And it takes any limit: where the
limit is not positive every answer is late, while a real carrier refuses to send such a request. It
does so with a value error, which a probe takes for no answer as well.
-/

namespace SubgraphLauncher

variable {τ σ : Type}

/-- What a service has answered. -/
structure Response where
  url : String
  status : Int
  reason : String
  body : String
  deriving DecidableEq, Repr

/-- The answer that a service gives at a moment. -/
def Network.answer? [Moment τ] (network : Network τ) (url : String) : Option (Answer τ) :=
  ((network.services.find? fun service => service.1 == url).map (·.2)).bind fun answers =>
    answers.find? fun answer => answer.span.covers network.now

/-- Whether an answer stays out for as long as one waits. -/
def Answer.isLate [Moment τ] (answer : Answer τ) (timeout : Option τ) : Bool :=
  answer.hangs || match timeout with
    | none => false
    | some limit => decide (limit ≤ answer.delay)

/-- Posts a request. The time that passes is the delay of the answer, or the limit where the answer
is late. -/
def post [Moment τ] (url : String) (body : Value) (timeout : Option τ) :
    PartnerAction τ σ Response := do
  Action.emit (.post url body timeout)
  match (← PartnerAction.network).answer? url with
  | none => Action.raise (.other .connectionError (some ("refused: " ++ url)))
  | some answer =>
    if answer.isLate timeout then
      PartnerAction.pass (timeout.getD 0)
      Action.raise (.other .readTimeout (some ("timed out: " ++ url)))
    else
      PartnerAction.pass answer.delay
      match answer.failure with
      | some failure => Action.raise failure
      | none => return ⟨url, answer.status, answer.reason, answer.body⟩

/-- Why a status is not a success: errors of the client from 400 and of the server from 500 on. -/
def Response.statusFault? (response : Response) : Option String :=
  let text (side : String) :=
    toString response.status ++ " " ++ side ++ " Error: " ++ response.reason ++ " for url: " ++
      response.url
  if 400 ≤ response.status ∧ response.status < 500 then some (text "Client")
  else if 500 ≤ response.status ∧ response.status < 600 then some (text "Server")
  else none

def Response.requireSuccess (response : Response) : PartnerAction τ σ Unit :=
  match response.statusFault? with
  | some text => Action.raise (.other .httpError (some text))
  | none => pure ()

/-- The document in the body of a response. -/
def Response.document (response : Response) : PartnerAction τ σ Value :=
  match Json.parse response.body.toList with
  | .ok value => pure value
  | .error fault => Action.raise (fault.failure .badBody)

end SubgraphLauncher
