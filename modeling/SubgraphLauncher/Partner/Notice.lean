import SubgraphLauncher.Host.Request
import SubgraphLauncher.Partner.Basic

/-!
# Notices of removal

The component that tracks running subgraphs is told over HTTP when one is removed. Nothing is read
back beyond the status, and a notice that does not arrive fails with what became of the request.
-/

namespace SubgraphLauncher

variable {τ σ : Type}

structure NoticeTarget (τ : Type) where
  base : String
  timeout : Option τ

/-- A base URL without the slashes at its end. -/
def withoutSlashes (url : String) : String :=
  String.ofList (url.toList.reverse.dropWhile (· == '/')).reverse

def NoticeTarget.url (target : NoticeTarget τ) : String := target.base ++ "/subgraphs"

def removalBody (name : String) : Value :=
  .object [(.text "event", .text "remove_subgraph"), (.text "subgraph", .text name)]

def announceRemoval [Moment τ] (target : NoticeTarget τ) (name : String) :
    PartnerAction τ σ Unit := do
  let send : PartnerAction τ σ Unit := do
    let response ← post target.url (removalBody name) target.timeout
    response.requireSuccess
  match ← send.attempt with
  | .ok _ =>
    PartnerAction.note .notifier
      ("Sent removal notice for subgraph '" ++ name ++ "' to " ++ target.url ++ ".")
  | .error failure =>
    if failure.isIn .request then
      Action.raise (.notice (some ("could not notify '" ++ target.url ++ "' of removal of '" ++
        name ++ "': " ++ failure.message)))
    else Action.raise failure

def Notifier.ofTarget [Moment τ] (target : NoticeTarget τ) : Notifier τ σ where
  announce := announceRemoval target

end SubgraphLauncher
