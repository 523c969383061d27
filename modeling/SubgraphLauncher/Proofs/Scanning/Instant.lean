import SubgraphLauncher.Proofs.Scanning.Search

/-!
# Probing in an instant

Where requests take no time, and fail only in ways that a scanner takes for no answer, a probe
leaves the scene as it was. So the deadline never comes, every probe meets the same network, probing
the addresses of a port comes to what the first of them leads to, and a sweep goes through all of
the ports.
-/

namespace SubgraphLauncher

open SubgraphLauncher.Action

variable {τ σ : Type}

section Instant

variable [Moment τ]

/-- Requests take no time. -/
def Network.IsInstant (network : Network τ) (limit : τ) : Prop :=
  ∀ url, network.behind url (some limit) = network.now

/-- Whatever fails with the answer is taken for no answer. -/
structure Answer.IsHandled (answer : Answer τ) : Prop where
  failure : ∀ failure, answer.failure = some failure → failure.isHandled
  body : ∀ fault, Json.parse answer.body.toList = .error fault →
    (fault.failure .badBody : Failure τ).isHandled

/-- The answers that are given now fail only in ways that are taken for no answer. -/
def Network.IsHandled (network : Network τ) : Prop :=
  ∀ url answer, network.answer? url = some answer → answer.IsHandled

theorem Network.IsHandled.of_reply {network : Network τ} (hhandled : network.IsHandled)
    {url : String} {timeout : Option τ} {failure : Failure τ}
    (hfailure : network.reply url timeout = .error failure) : failure.isHandled := by
  unfold Network.reply at hfailure
  cases hanswer : network.answer? url with
  | none =>
      rw [hanswer] at hfailure
      obtain rfl := Except.error.inj hfailure
      rfl
  | some answer =>
      rw [hanswer] at hfailure
      dsimp only at hfailure
      by_cases hlate : answer.isLate timeout
      · rw [if_pos hlate] at hfailure
        obtain rfl := Except.error.inj hfailure
        rfl
      · rw [if_neg hlate] at hfailure
        cases hown : answer.failure with
        | none =>
            rw [hown] at hfailure
            cases hfailure
        | some own =>
            rw [hown] at hfailure
            obtain rfl := Except.error.inj hfailure
            exact (hhandled url answer hanswer).failure own hown

omit [Moment τ] in
theorem isHandled_of_readProbe {answer : Answer τ} (hhandled : answer.IsHandled) {url : String}
    {scene : Scene τ σ} {failure : Failure τ}
    (hfailure : (readProbe ⟨url, answer.status, answer.reason, answer.body⟩ scene).result =
      .error failure) : failure.isHandled := by
  simp only [readProbe, Response.requireSuccess, Response.document, bind_apply] at hfailure
  cases hstatus : (Response.mk url answer.status answer.reason answer.body).statusFault? with
  | some text =>
      rw [hstatus] at hfailure
      obtain rfl := Except.error.inj hfailure
      rfl
  | none =>
      rw [hstatus] at hfailure
      cases hparse : Json.parse answer.body.toList with
      | ok document =>
          simp [hparse] at hfailure
      | error fault =>
          simp only [hparse, pure_apply, raise_apply] at hfailure
          obtain rfl := Except.error.inj hfailure
          exact hhandled.body fault hparse

/-- Where requests take no time and fail in ways that are handled, a probe leaves the scene as it is
and tells whether a server answers. -/
theorem servesGraphQL_apply {scene : Scene τ σ} {limit : τ}
    (hinstant : scene.network.IsInstant limit) (hhandled : scene.network.IsHandled)
    (endpoint : Endpoint) :
    (servesGraphQL endpoint (some limit) scene).state = scene ∧
      ∃ served, (servesGraphQL endpoint (some limit) scene).result = .ok served ∧
        (served = true ↔ scene.network.Confirms endpoint.url limit) := by
  have hreturns : ∃ served, (servesGraphQL endpoint (some limit) scene).result = .ok served := by
    refine servesGraphQL_returns_of_handled endpoint fun failure hfailure => ?_
    rw [bind_apply, post_apply] at hfailure
    cases hreply : scene.network.reply endpoint.url (some limit) with
    | error refused =>
        rw [hreply] at hfailure
        obtain rfl := Except.error.inj hfailure
        exact hhandled.of_reply hreply
    | ok response =>
        obtain ⟨answer, hanswer, -, -, -, rfl⟩ := (Network.reply_eq_ok_iff _ _ _ _).mp hreply
        rw [hreply] at hfailure
        exact isHandled_of_readProbe (hhandled _ answer hanswer) hfailure
  obtain ⟨served, hserved⟩ := hreturns
  refine ⟨?_, served, hserved, ?_⟩
  · rw [servesGraphQL_state, post_apply, hinstant]
  · rw [← servesGraphQL_result_iff, hserved]
    simp

/-! ### Probing in an instant -/

/-- In a scene, probing goes through without changing anything, and comes to the endpoint of a kind
if there is one. -/
structure Finds (scene : Scene τ σ) (kind : Endpoint → Prop)
    (x : PartnerAction τ σ (Option Endpoint)) : Prop where
  state : (x scene).state = scene
  result : ∃ found, (x scene).result = .ok found ∧ ∀ endpoint, found = some endpoint ↔ kind endpoint

omit [Moment τ] in
theorem finds_none {scene : Scene τ σ} {kind : Endpoint → Prop}
    (hkind : ∀ endpoint, ¬ kind endpoint) : Finds scene kind (pure none) :=
  ⟨rfl, none, rfl, fun endpoint => by simp [hkind endpoint]⟩

omit [Moment τ] in
/-- What probing at one place and then at others comes to. -/
theorem Finds.orElse {α : Type} {scene : Scene τ σ} {leads : α → Endpoint → Prop} {a : α}
    {rest : List α} {x y : PartnerAction τ σ (Option Endpoint)} (hx : Finds scene (leads a) x)
    (hy : Finds scene (FirstOf leads rest) y) :
    Finds scene (FirstOf leads (a :: rest))
      (x >>= fun
        | some endpoint => pure (some endpoint)
        | none => y) := by
  obtain ⟨hstate, found, hfound, hleads⟩ := hx
  have hbind := bind_apply x (fun
    | some endpoint => pure (some endpoint)
    | none => y) scene
  rw [hfound, hstate] at hbind
  cases found with
  | some first =>
      have hfirst : leads a first := (hleads first).mp rfl
      refine ⟨by rw [hbind]; rfl, some first, by rw [hbind]; rfl, fun endpoint => ?_⟩
      rw [firstOf_cons_iff, ← hleads]
      constructor
      · exact .inl
      · intro hsome
        exact hsome.elim id fun hlater => absurd hfirst (hlater.1 first)
  | none =>
      have hnone : ∀ endpoint, ¬ leads a endpoint := by
        intro endpoint hsome
        cases (hleads endpoint).mpr hsome
      obtain ⟨hstate', found, hfound', hlater⟩ := hy
      refine ⟨by rw [hbind]; exact hstate', found, by rw [hbind]; exact hfound', fun endpoint => ?_⟩
      rw [hlater, firstOf_cons_iff]
      simp [hnone]

/-- Searching takes no time in a scene, and the deadline leaves time for every probe. -/
structure Search.IsStill (search : Search τ) (timeout deadline : τ) (scene : Scene τ σ) :
    Prop where
  network : scene.network = search.network
  instant : search.network.IsInstant search.limit
  handled : search.network.IsHandled
  limit : shorter timeout (deadline - scene.network.now) = search.limit
  left : ¬ deadline - scene.network.now ≤ 0

section Search

variable {search : Search τ} {timeout deadline : τ} {scene : Scene τ σ}

/-- A single probe comes to the endpoint that it is sent to, if a server answers there. -/
theorem probe_finds (hstill : search.IsStill timeout deadline scene) {address : SocketAddress}
    {path : String} {endpoint : Endpoint}
    (hendpoint : Endpoint.ofSocket address.ip address.port path = .ok endpoint) :
    Finds scene (search.Serves address path) (do
      return if ← servesGraphQL endpoint (some search.limit) then some endpoint else none) := by
  obtain ⟨hstate, served, hserved, hconfirms⟩ :=
    servesGraphQL_apply (hstill.network ▸ hstill.instant) (hstill.network ▸ hstill.handled) endpoint
  rw [hstill.network] at hconfirms
  refine ⟨?_, if served then some endpoint else none, ?_, fun other => ?_⟩
  · rw [bind_pure_apply]
    exact hstate
  · rw [bind_pure_apply, hserved]
    rfl
  · simp only [Search.Serves, hendpoint, Except.ok.injEq]
    cases served with
    | true =>
        simp only [if_true, Option.some.injEq]
        constructor
        · intro heq
          exact ⟨heq, heq ▸ hconfirms.mp rfl⟩
        · exact fun hother => hother.1
    | false =>
        simp only [Bool.false_eq_true, if_false, false_iff, reduceCtorEq]
        intro ⟨heq, hother⟩
        exact absurd (hconfirms.mpr (heq ▸ hother)) (by simp)

/-- Trying the paths of an address comes to what the address leads to. -/
theorem probePaths_finds (hstill : search.IsStill timeout deadline scene)
    {address : SocketAddress} (haddress : address.HasUrls) {paths : List Value}
    {texts : List String} (htexts : paths.map Value.text? = texts.map some) :
    Finds scene (FirstOf (search.Serves address) texts)
      (probePaths (some timeout) deadline address paths) := by
  induction paths generalizing texts with
  | nil =>
      obtain rfl : texts = [] := by simpa using htexts.symm
      exact finds_none fun endpoint => not_firstOf_nil
  | cons path rest ih =>
      cases texts with
      | nil => simp at htexts
      | cons text more =>
          obtain ⟨htext, hmore⟩ := List.cons.inj htexts
          obtain ⟨endpoint, hendpoint⟩ := haddress text
          have hfinds := (probe_finds hstill hendpoint).orElse (ih hmore)
          have hstep : probePaths (some timeout) deadline address (path :: rest) scene =
              ((do return if ← servesGraphQL endpoint (some search.limit) then some endpoint
                  else none) >>= fun
                | some endpoint => pure (some endpoint)
                | none => probePaths (some timeout) deadline address rest) scene := by
            rw [probePaths_cons htext hendpoint, if_neg hstill.left, hstill.limit, bind_assoc]
            refine congrFun (bind_congr fun served => ?_) scene
            rw [pure_bind]
            cases served <;> simp
          constructor
          · rw [hstep]
            exact hfinds.state
          · rw [hstep]
            exact hfinds.result

/-- Probing the addresses of a port comes to what the first one that leads anywhere leads to. -/
theorem probePort_finds (hstill : search.IsStill timeout deadline scene) {plan : ProbePlan τ}
    (htimeout : plan.timeout = some timeout)
    (htexts : plan.paths.map Value.text? = search.paths.map some) {addresses : List SocketAddress}
    (hurls : ∀ address ∈ addresses, address.HasUrls) :
    Finds scene (FirstOf search.LeadsTo addresses) (probePort plan deadline addresses) := by
  induction addresses with
  | nil => exact finds_none fun endpoint => not_firstOf_nil
  | cons address rest ih =>
      obtain ⟨haddress, hrest⟩ := List.forall_mem_cons.mp hurls
      rw [probePort_cons, htimeout]
      have hfinds : Finds scene (search.LeadsTo address)
          (probePaths (some timeout) deadline address plan.paths) :=
        probePaths_finds hstill haddress htexts
      exact hfinds.orElse (ih hrest)

/-- Probing a port comes to the first endpoint on it. -/
theorem probePort_finds_first (hstill : search.IsStill timeout deadline scene) {plan : ProbePlan τ}
    (htimeout : plan.timeout = some timeout)
    (htexts : plan.paths.map Value.text? = search.paths.map some)
    (hurls : ∀ address ∈ search.heard, address.HasUrls) {addresses : List SocketAddress}
    (hopen : ∀ address,
      address ∈ addresses ↔ address ∈ search.heard ∧ ¬ address.IsCovered search.known)
    (port : Int) :
    Finds scene (search.IsFirst port) (probePort plan deadline (addressesOn addresses port)) := by
  have hopen' := Search.mem_addressesOn_iff hopen port
  obtain ⟨hstate, found, hfound, hleads⟩ := probePort_finds hstill htimeout htexts
    fun address haddress => hurls address ((hopen' address).mp haddress).1
  refine ⟨hstate, found, hfound, fun endpoint => ?_⟩
  rw [hleads, Search.firstOf_iff (pairwise_addressesOn addresses port) hopen']

end Search

/-! ### Sweeping in an instant -/

/-- Where probing leaves the scene as it is and the deadline has not come, a sweep goes through all
ports and comes to what is chosen for each of them. -/
theorem sweepPorts_of_finds {sweep : Sweep τ} {scene : Scene τ σ}
    (htime : ¬ sweep.deadline ≤ scene.network.now) {kind : Int → Endpoint → Prop}
    (hfinds : ∀ port, Finds scene (kind port)
      (probePort sweep.plan sweep.deadline (addressesOn sweep.addresses port)))
    {choice : Int → Option Endpoint}
    (hchoice : ∀ port endpoint, choice port = some endpoint ↔ kind port endpoint)
    (cursor : Slot σ Nat) (probed : Nat) (ports : List Int) :
    (sweepPorts sweep cursor probed ports scene).state = scene ∧
      (sweepPorts sweep cursor probed ports scene).result = .ok (ports.filterMap choice) := by
  induction ports generalizing probed with
  | nil => exact ⟨rfl, rfl⟩
  | cons port rest ih =>
      obtain ⟨hstate, found, hfound, hkind⟩ := hfinds port
      obtain rfl : found = choice port :=
        Option.ext fun endpoint => (hkind endpoint).trans (hchoice port endpoint).symm
      have hvisit : (sweep.visit port scene).outcome.state = scene := hstate
      obtain ⟨hstate', hmore⟩ := ih (probed + 1)
      rw [sweepPorts_of_found hfound]
      dsimp only
      rw [hvisit, if_neg fun hcut => htime hcut.1]
      refine ⟨hstate', ?_⟩
      rw [hmore, List.filterMap_cons]
      cases choice port <;> rfl

end Instant

end SubgraphLauncher
