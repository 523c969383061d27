import SubgraphLauncher.Proofs.Matching
import SubgraphLauncher.Proofs.Scanning.Open
import SubgraphLauncher.Proofs.Scanning.Trail

/-!
# Scans over other transports

A scan sends its probes over a transport and goes by what becomes of them. So it is told for any
transport here; over the network of the host it is the scan itself. Two scans go the same way if
their transports lead to the same verdict on every probe and the addresses come to the same on every
port, however they are listed: `Transport.scanSockets_matches`.
-/

namespace SubgraphLauncher

open SubgraphLauncher.Action

variable {τ σ : Type}

/-- What carries requests: it answers each with a response or a failure, and with the network as it
is when the request is over. -/
structure Transport (τ : Type) where
  answer : String → Value → Option τ → Network τ → Except (Failure τ) Response × Network τ

/-! ### The verdict on a probe -/

/-- The document in an answer to a probe, or why there is none. -/
def Response.read (response : Response) : Except (Failure τ) Value :=
  match response.statusFault? with
  | some text => .error (.other .httpError (some text))
  | none =>
    match Json.parse response.body.toList with
    | .ok document => .ok document
    | .error fault => .error (fault.failure .badBody)

theorem readProbe_eq (response : Response) :
    (readProbe response : PartnerAction τ σ Value) = ofExcept response.read := by
  funext scene
  unfold readProbe Response.requireSuccess Response.document Response.read
  rw [bind_apply]
  cases response.statusFault? with
  | some text => rfl
  | none => cases Json.parse response.body.toList <;> rfl

theorem readProbe_result (response : Response) (scene : Scene τ σ) :
    (readProbe response scene).result = response.read := by
  rw [readProbe_eq]
  cases (response.read : Except (Failure τ) Value) <;> rfl

/-- Whether a probe is taken for confirmed. A failure that is handled only means that it is not. -/
def verdict : Except (Failure τ) Value → Except (Failure τ) Bool
  | .ok document => .ok (answersProbe document)
  | .error failure => if failure.isHandled then .ok false else .error failure

theorem judgeProbe_apply [Moment τ] (endpoint : Endpoint) (probed : Except (Failure τ) Value)
    (scene : Scene τ σ) :
    (judgeProbe endpoint probed scene).result = verdict probed ∧
      (judgeProbe endpoint probed scene).state = scene ∧
      (judgeProbe endpoint probed scene).events.filter PartnerEvent.isPost = [] := by
  cases probed with
  | ok document => exact ⟨rfl, rfl, rfl⟩
  | error failure =>
      unfold judgeProbe verdict Failure.isHandled
      dsimp only
      cases failure.isIn .request || failure.isIn .value with
      | true => exact ⟨rfl, rfl, rfl⟩
      | false => exact ⟨rfl, rfl, rfl⟩

namespace Transport

variable (transport : Transport τ)

def post (url : String) (body : Value) (timeout : Option τ) : PartnerAction τ σ Response :=
  fun scene =>
    let (reply, behind) := transport.answer url body timeout scene.network
    ⟨reply, { scene with network := behind }, [.post url body timeout]⟩

/-- What comes of reading the answer to a probe. -/
def read (url : String) (timeout : Option τ) (network : Network τ) : Except (Failure τ) Value :=
  (transport.answer url probeBody timeout network).1.bind Response.read

/-- The network behind a probe. -/
def behind (url : String) (timeout : Option τ) (network : Network τ) : Network τ :=
  (transport.answer url probeBody timeout network).2

/-! ### Scans -/

section Scan

variable [Moment τ]

def serves (endpoint : Endpoint) (timeout : Option τ) : PartnerAction τ σ Bool :=
  (transport.post endpoint.url probeBody timeout >>= readProbe).attempt >>= judgeProbe endpoint

def probePaths (timeout : Option τ) (deadline : τ) (address : SocketAddress) :
    List Value → PartnerAction τ σ (Option Endpoint)
  | [] => pure none
  | path :: rest => do
    let remaining := deadline - (← PartnerAction.now)
    if remaining ≤ 0 then return none
    let text ← requirePath path
    let endpoint ← requireEndpoint (Endpoint.ofSocket address.ip address.port text)
    match timeout with
    | none => Action.raise .missingComparison
    | some limit =>
      if ← transport.serves endpoint (some (shorter limit remaining)) then return some endpoint
      else probePaths timeout deadline address rest

def probePort (plan : ProbePlan τ) (deadline : τ) :
    List SocketAddress → PartnerAction τ σ (Option Endpoint)
  | [] => pure none
  | address :: rest => do
    match ← transport.probePaths plan.timeout deadline address plan.paths with
    | some endpoint => return some endpoint
    | none => probePort plan deadline rest

def sweepPorts (sweep : Sweep τ) (cursor : Slot σ Nat) (probed : Nat) :
    List Int → PartnerAction τ σ (List Endpoint)
  | [] => pure []
  | port :: rest => do
    let found ← transport.probePort sweep.plan sweep.deadline (addressesOn sweep.addresses port)
    let now ← PartnerAction.now
    if sweep.deadline ≤ now ∧ rest ≠ [] then
      PartnerAction.note .scanner (budgetNote sweep.budget (probed + 1) sweep.total)
      PartnerAction.keep cursor (sweep.start + (probed + 1))
      return found.toList
    else return found.toList ++ (← sweepPorts sweep cursor (probed + 1) rest)

/-- A scan whose requests go over a transport. -/
def scanSockets (plan : ProbePlan τ) (cursor : Slot σ Nat) (known : List Endpoint) :
    PartnerAction τ σ (List Endpoint) := do
  let addresses ← openAddresses known
  let ports := portsOf addresses
  if ports.isEmpty then return []
  let start := (← PartnerAction.fetch cursor) % ports.length
  match plan.budget with
  | none => Action.raise (.missingOperand "+" "float" "NoneType")
  | some budget =>
    let deadline := (← PartnerAction.now) + budget
    let sweep : Sweep τ := ⟨plan, budget, deadline, addresses, start, ports.length⟩
    return Endpoint.sort (← transport.sweepPorts sweep cursor 0 (rotate ports start))

theorem serves_apply (endpoint : Endpoint) (timeout : Option τ) (scene : Scene τ σ) :
    (transport.serves endpoint timeout scene).result =
        verdict (transport.read endpoint.url timeout scene.network) ∧
      (transport.serves endpoint timeout scene).state =
        { scene with network := transport.behind endpoint.url timeout scene.network } ∧
      (transport.serves endpoint timeout scene).events.filter PartnerEvent.isPost =
        [.post endpoint.url probeBody timeout] := by
  let after : Scene τ σ :=
    { scene with network := transport.behind endpoint.url timeout scene.network }
  have hread : (transport.post endpoint.url probeBody timeout >>= readProbe) scene =
      ⟨transport.read endpoint.url timeout scene.network, after,
        [.post endpoint.url probeBody timeout]⟩ := by
    rw [bind_apply]
    unfold post read
    cases hreply : (transport.answer endpoint.url probeBody timeout scene.network).1 with
    | error failure => simp [hreply, after, behind, Except.bind]
    | ok response =>
        simp only [hreply, readProbe_eq, Except.bind, after, behind]
        cases (response.read : Except (Failure τ) Value) <;> rfl
  obtain ⟨hresult, hstate, hevents⟩ := judgeProbe_apply endpoint
    (transport.read endpoint.url timeout scene.network) after
  unfold serves
  rw [bind_apply, attempt_apply, hread]
  refine ⟨hresult, hstate, ?_⟩
  dsimp only
  rw [List.filter_append, hevents]
  rfl

end Scan

/-! ### The network of the host -/

section Host

variable [Moment τ]

/-- The host answers a request at the time when it is sent, and lets time pass. -/
def host : Transport τ where
  answer url _ timeout network :=
    (network.reply url timeout, { network with now := network.behind url timeout })

theorem host_post (url : String) (body : Value) (timeout : Option τ) :
    (host.post url body timeout : PartnerAction τ σ Response) =
      SubgraphLauncher.post url body timeout := by
  funext scene
  rw [post_apply]
  rfl

theorem host_serves (endpoint : Endpoint) (timeout : Option τ) :
    (host.serves endpoint timeout : PartnerAction τ σ Bool) = servesGraphQL endpoint timeout := by
  rw [servesGraphQL_eq, serves, host_post]

theorem host_probePaths (timeout : Option τ) (deadline : τ) (address : SocketAddress)
    (paths : List Value) :
    (host.probePaths timeout deadline address paths : PartnerAction τ σ (Option Endpoint)) =
      SubgraphLauncher.probePaths timeout deadline address paths := by
  induction paths with
  | nil => rfl
  | cons path rest ih =>
      unfold probePaths SubgraphLauncher.probePaths
      refine bind_congr fun now => ?_
      dsimp only
      by_cases hspent : deadline - now ≤ 0
      · rw [if_pos hspent, if_pos hspent]
      · rw [if_neg hspent, if_neg hspent]
        refine bind_congr fun text => bind_congr fun endpoint => ?_
        cases timeout with
        | none => rfl
        | some limit =>
            dsimp only
            -- The loops differ in what carries the request, and in nothing else.
            rw [host_serves]
            refine bind_congr fun served => ?_
            cases served with
            | true => rfl
            | false => exact ih

theorem host_probePort (plan : ProbePlan τ) (deadline : τ) (addresses : List SocketAddress) :
    (host.probePort plan deadline addresses : PartnerAction τ σ (Option Endpoint)) =
      SubgraphLauncher.probePort plan deadline addresses := by
  induction addresses with
  | nil => rfl
  | cons address rest ih =>
      unfold probePort SubgraphLauncher.probePort
      rw [host_probePaths]
      refine bind_congr fun found => ?_
      cases found with
      | some endpoint => rfl
      | none => exact ih

theorem host_sweepPorts (sweep : Sweep τ) (cursor : Slot σ Nat) (probed : Nat) (ports : List Int) :
    host.sweepPorts sweep cursor probed ports =
      SubgraphLauncher.sweepPorts sweep cursor probed ports := by
  induction ports generalizing probed with
  | nil => rfl
  | cons port rest ih =>
      unfold sweepPorts SubgraphLauncher.sweepPorts
      rw [host_probePort]
      simp only [ih]

/-- Over the network of the host, a scan is the scan of the host. -/
theorem host_scanSockets (plan : ProbePlan τ) (cursor : Slot σ Nat) (known : List Endpoint) :
    host.scanSockets plan cursor known = SubgraphLauncher.scanSockets plan cursor known := by
  unfold scanSockets SubgraphLauncher.scanSockets openAddresses
  cases plan.budget with
  | none => simp only [bind_assoc]
  | some budget => simp only [host_sweepPorts, bind_assoc]

end Host

end Transport

/-! ### Scans that go the same way -/

/-- Scenes that are alike are at one time and have one desk, on which the same may be put. -/
structure Scene.Likeness (alike : Scene τ σ → Scene τ σ → Prop) : Prop where
  now : ∀ first second, alike first second → first.network.now = second.network.now
  desk : ∀ first second, alike first second → first.desk = second.desk
  put : ∀ first second, alike first second → ∀ desk,
    alike { first with desk := desk } { second with desk := desk }

namespace Scene.Likeness

variable {alike : Scene τ σ → Scene τ σ → Prop} {shown : PartnerEvent τ → Bool} {α γ : Type}

theorem matches_now_bind (hlike : Likeness alike) {f g : τ → PartnerAction τ σ α}
    (hf : ∀ now, Matches alike shown (f now) (g now)) :
    Matches alike shown (PartnerAction.now >>= f) (PartnerAction.now >>= g) := by
  intro first second halike
  rw [now_bind_apply, now_bind_apply, hlike.now first second halike]
  exact hf _ first second halike

theorem matches_keep (hlike : Likeness alike) (slot : Slot σ γ) (value : γ) :
    Matches alike shown (PartnerAction.keep slot value : PartnerAction τ σ Unit)
      (PartnerAction.keep slot value) := by
  refine matches_change fun first second halike => ?_
  rw [hlike.desk first second halike]
  exact hlike.put first second halike _

end Scene.Likeness

namespace Transport

variable [Moment τ] {alike : Scene τ σ → Scene τ σ → Prop} {shown : PartnerEvent τ → Bool}
  {first second : Transport τ}

theorem probePaths_matches (hlike : Scene.Likeness alike)
    (hserves : ∀ endpoint timeout,
      Matches alike shown (first.serves endpoint timeout) (second.serves endpoint timeout))
    (timeout : Option τ) (deadline : τ) (address : SocketAddress) (paths : List Value) :
    Matches alike shown (first.probePaths timeout deadline address paths)
      (second.probePaths timeout deadline address paths) := by
  induction paths with
  | nil => exact matches_pure none
  | cons path rest ih =>
      unfold probePaths
      refine hlike.matches_now_bind fun now => ?_
      dsimp only
      by_cases hspent : deadline - now ≤ 0
      · rw [if_pos hspent, if_pos hspent]
        exact matches_pure none
      · rw [if_neg hspent, if_neg hspent]
        unfold requirePath requireEndpoint
        refine Matches.bind ?_ fun text => Matches.bind ?_ fun endpoint => ?_
        · cases path.text? with
          | some text => exact matches_pure text
          | none => exact matches_raise _
        · cases Endpoint.ofSocket address.ip address.port text with
          | ok endpoint => exact matches_pure endpoint
          | error fault => exact matches_raise _
        · cases timeout with
          | none => exact matches_raise _
          | some limit =>
              refine (hserves endpoint _).bind fun served => ?_
              cases served with
              | true => exact matches_pure (some endpoint)
              | false => exact ih

theorem probePort_matches (hlike : Scene.Likeness alike)
    (hserves : ∀ endpoint timeout,
      Matches alike shown (first.serves endpoint timeout) (second.serves endpoint timeout))
    (plan : ProbePlan τ) (deadline : τ) (addresses : List SocketAddress) :
    Matches alike shown (first.probePort plan deadline addresses)
      (second.probePort plan deadline addresses) := by
  induction addresses with
  | nil => exact matches_pure none
  | cons address rest ih =>
      unfold probePort
      refine (probePaths_matches hlike hserves _ _ _ _).bind fun found => ?_
      cases found with
      | some endpoint => exact matches_pure (some endpoint)
      | none => exact ih

theorem sweepPorts_matches (hlike : Scene.Likeness alike)
    (hserves : ∀ endpoint timeout,
      Matches alike shown (first.serves endpoint timeout) (second.serves endpoint timeout))
    {sweep : Sweep τ} {addresses : List SocketAddress}
    (haddresses : ∀ port, addressesOn sweep.addresses port = addressesOn addresses port)
    (cursor : Slot σ Nat) (probed : Nat) (ports : List Int) :
    Matches alike shown (first.sweepPorts sweep cursor probed ports)
      (second.sweepPorts { sweep with addresses := addresses } cursor probed ports) := by
  induction ports generalizing probed with
  | nil => exact matches_pure []
  | cons port rest ih =>
      unfold sweepPorts
      dsimp only
      rw [haddresses]
      refine (probePort_matches hlike hserves _ _ _).bind fun found => ?_
      refine hlike.matches_now_bind fun now => ?_
      by_cases hcut : sweep.deadline ≤ now ∧ rest ≠ []
      · rw [if_pos hcut, if_pos hcut]
        refine (matches_emit _).bind fun _ => ?_
        exact (hlike.matches_keep cursor _).bind fun _ => matches_pure _
      · rw [if_neg hcut, if_neg hcut]
        exact (ih (probed + 1)).bind fun more => matches_pure _

end Transport

end SubgraphLauncher
