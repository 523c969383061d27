import SubgraphLauncher.Proofs.Scanning.Complete
import SubgraphLauncher.Proofs.Scanning.Plain
import SubgraphLauncher.Proofs.Scanning.Transport

/-!
# Probes that fail

A probe that fails in a way that is handled costs its time and has no other effect: a scan goes on
as if something had answered that is no GraphQL server. Where all failures are of that kind, a scan
comes to a result unless an address is in the way on which there are no URLs. And a scan that fails
all the same leaves the desk as it was, with the cursor on it: the cursor is put last.
-/

namespace SubgraphLauncher

open SubgraphLauncher.Action

variable {τ σ : Type}

/-! ### Actions that succeed, and actions that fail without a trace -/

namespace Action

variable {ω ε α β γ : Type} {fit : σ → Prop} {view : σ → γ}

/-- In states of a kind the action has a result, and it leaves a state of the kind behind. -/
def Succeeds (fit : σ → Prop) (x : Action ω σ ε α) : Prop :=
  ∀ s, fit s → (∃ a, (x s).result = .ok a) ∧ fit (x s).state

theorem succeeds_pure (a : α) : Succeeds fit (pure a : Action ω σ ε α) :=
  fun _ hs => ⟨⟨a, rfl⟩, hs⟩

theorem Succeeds.bind {x : Action ω σ ε α} {f : α → Action ω σ ε β} (hx : Succeeds fit x)
    (hf : ∀ a, Succeeds fit (f a)) : Succeeds fit (x >>= f) := by
  intro s hs
  obtain ⟨⟨a, ha⟩, hstate⟩ := hx s hs
  rw [bind_apply, ha]
  exact hf a _ hstate

/-- If the action fails, it leaves a view of the state as it was. -/
def FailsClean (view : σ → γ) (x : Action ω σ ε α) : Prop :=
  ∀ s failure, (x s).result = .error failure → view (x s).state = view s

theorem Keeps.failsClean {x : Action ω σ ε α} (hx : Keeps view x) : FailsClean view x :=
  fun s _ _ => hx s

theorem Keeps.bind_failsClean {x : Action ω σ ε α} {f : α → Action ω σ ε β} (hx : Keeps view x)
    (hf : ∀ a, FailsClean view (f a)) : FailsClean view (x >>= f) := by
  intro s failure hfailure
  rw [bind_apply] at hfailure ⊢
  cases hresult : (x s).result with
  | error other => exact hx s
  | ok a =>
      rw [hresult] at hfailure
      exact (hf a _ failure hfailure).trans (hx s)

/-- What cannot fail adds no failure. -/
theorem FailsClean.bind_pure {x : Action ω σ ε α} (hx : FailsClean view x) (f : α → β) :
    FailsClean view (x >>= fun a => pure (f a)) := by
  intro s failure hfailure
  rw [bind_pure_apply] at hfailure ⊢
  cases hresult : (x s).result with
  | error other => exact hx s other hresult
  | ok a =>
      rw [hresult] at hfailure
      cases hfailure

end Action

/-! ### Transports that fail -/

theorem Network.exists_answer_of_reply [Moment τ] {network : Network τ} {url : String}
    {timeout : Option τ} {response : Response} (hreply : network.reply url timeout = .ok response) :
    ∃ answer, network.answer? url = some answer ∧
      response = ⟨url, answer.status, answer.reason, answer.body⟩ := by
  unfold reply at hreply
  cases hanswer : network.answer? url with
  | none =>
      rw [hanswer] at hreply
      cases hreply
  | some answer =>
      rw [hanswer] at hreply
      dsimp only at hreply
      split at hreply
      · cases hreply
      · split at hreply
        · cases hreply
        · exact ⟨answer, rfl, (Except.ok.inj hreply).symm⟩

namespace Transport

/-- On networks of a kind, the transport fails only in ways that are handled, and it keeps to the
kind. -/
structure IsHandled (transport : Transport τ) (fit : Network τ → Prop) : Prop where
  failure : ∀ url timeout network failure, fit network →
    transport.read url timeout network = .error failure → failure.isHandled
  fit : ∀ url timeout network, fit network → fit (transport.behind url timeout network)

/-- In the place of a transport, another one may answer a probe that fails in a way that is handled:
it takes the same time, and what it answers is a document, but not that of a GraphQL server. All
other probes come to the same. -/
structure StandsIn (other transport : Transport τ) : Prop where
  behind : ∀ url timeout network,
    other.behind url timeout network = transport.behind url timeout network
  read : ∀ url timeout network,
    other.read url timeout network = transport.read url timeout network ∨
      (∃ failure, transport.read url timeout network = .error failure ∧ failure.isHandled) ∧
        ∃ document, other.read url timeout network = .ok document ∧ answersProbe document = false

theorem StandsIn.verdict_eq {other transport : Transport τ} (hother : other.StandsIn transport)
    (url : String) (timeout : Option τ) (network : Network τ) :
    verdict (other.read url timeout network) = verdict (transport.read url timeout network) := by
  rcases hother.read url timeout network with hsame | ⟨⟨failure, hfails, hhandled⟩, document, hread,
    hnone⟩
  · rw [hsame]
  · rw [hfails, hread, verdict, verdict, hnone, if_pos hhandled]

variable [Moment τ]

/-- A probe that fails is to a scan what a probe is that is answered by something else. -/
theorem StandsIn.serves_matches {other transport : Transport τ} (hother : other.StandsIn transport)
    (endpoint : Endpoint) (timeout : Option τ) :
    Matches Eq PartnerEvent.isPost (other.serves endpoint timeout : PartnerAction τ σ Bool)
      (transport.serves endpoint timeout) := by
  rintro scene _ rfl
  obtain ⟨hresult, hstate, hevents⟩ := other.serves_apply endpoint timeout scene
  obtain ⟨hresult', hstate', hevents'⟩ := transport.serves_apply endpoint timeout scene
  constructor
  · rw [hresult, hresult', hother.verdict_eq]
  · rw [hstate, hstate', hother.behind]
  · rw [hevents, hevents']

omit [Moment τ] in
theorem eq_likeness : Scene.Likeness (Eq : Scene τ σ → Scene τ σ → Prop) where
  now _ _ heq := congrArg (fun scene => scene.network.now) heq
  desk _ _ heq := congrArg Scene.desk heq
  put _ _ heq _ := by rw [heq]

theorem StandsIn.scanSockets_matches {other transport : Transport τ}
    (hother : other.StandsIn transport) (plan : ProbePlan τ) (cursor : Slot σ Nat)
    (known : List Endpoint) :
    Matches Eq PartnerEvent.isPost (other.scanSockets plan cursor known)
      (transport.scanSockets plan cursor known) := by
  unfold scanSockets
  refine (matches_refl _).bind fun addresses => ?_
  dsimp only
  split
  · exact matches_refl _
  · refine (matches_refl _).bind fun start => ?_
    split
    · exact matches_refl _
    · refine (matches_refl _).bind fun now => ?_
      refine Matches.bind ?_ fun found => matches_refl _
      exact sweepPorts_matches eq_likeness hother.serves_matches (fun _ => rfl) cursor 0 _

/-! ### Scans that fail -/

section Desk

variable (transport : Transport τ)

theorem serves_keeps (endpoint : Endpoint) (timeout : Option τ) :
    Keeps Scene.desk (transport.serves endpoint timeout : PartnerAction τ σ Bool) := by
  intro scene
  rw [(transport.serves_apply endpoint timeout scene).2.1]

theorem probePaths_keeps (timeout : Option τ) (deadline : τ) (address : SocketAddress)
    (paths : List Value) :
    Keeps Scene.desk (transport.probePaths timeout deadline address paths :
      PartnerAction τ σ (Option Endpoint)) := by
  induction paths with
  | nil => exact keeps_pure _
  | cons path rest ih =>
      unfold probePaths
      refine now_keeps.bind fun now => ?_
      dsimp only
      split
      · exact keeps_pure _
      · refine (requirePath_keeps _).bind fun _ => (requireEndpoint_keeps _).bind fun endpoint => ?_
        cases timeout with
        | none => exact keeps_raise _
        | some limit =>
            refine (transport.serves_keeps _ _).bind fun served => ?_
            split
            · exact keeps_pure _
            · exact ih

theorem probePort_keeps (plan : ProbePlan τ) (deadline : τ) (addresses : List SocketAddress) :
    Keeps Scene.desk (transport.probePort plan deadline addresses :
      PartnerAction τ σ (Option Endpoint)) := by
  induction addresses with
  | nil => exact keeps_pure _
  | cons address rest ih =>
      unfold probePort
      refine (transport.probePaths_keeps _ _ _ _).bind fun found => ?_
      cases found with
      | some endpoint => exact keeps_pure _
      | none => exact ih

/-- The cursor is put when nothing can fail any more. -/
theorem sweepPorts_failsClean (sweep : Sweep τ) (cursor : Slot σ Nat) (probed : Nat)
    (ports : List Int) :
    FailsClean Scene.desk (transport.sweepPorts sweep cursor probed ports) := by
  induction ports generalizing probed with
  | nil => exact (keeps_pure _).failsClean
  | cons port rest ih =>
      unfold sweepPorts
      refine (transport.probePort_keeps _ _ _).bind_failsClean fun found => ?_
      refine now_keeps.bind_failsClean fun now => ?_
      split
      · intro scene failure hfailure
        cases hfailure
      · exact (ih (probed + 1)).bind_pure _

theorem scanSockets_failsClean (plan : ProbePlan τ) (cursor : Slot σ Nat) (known : List Endpoint) :
    FailsClean Scene.desk (transport.scanSockets plan cursor known) := by
  unfold scanSockets
  refine (openAddresses_keeps known).bind_failsClean fun addresses => ?_
  dsimp only
  split
  · exact (keeps_pure _).failsClean
  · refine (fetch_keeps cursor).bind_failsClean fun start => ?_
    cases plan.budget with
    | none => exact (keeps_raise _).failsClean
    | some budget =>
        refine now_keeps.bind_failsClean fun now => ?_
        exact (transport.sweepPorts_failsClean _ cursor 0 _).bind_pure _

end Desk

/-! ### Scans that succeed -/

section Success

variable {transport : Transport τ} {fit : Network τ → Prop}

theorem IsHandled.serves_succeeds (hhandled : transport.IsHandled fit) (endpoint : Endpoint)
    (timeout : Option τ) :
    Succeeds (fun scene => fit scene.network)
      (transport.serves endpoint timeout : PartnerAction τ σ Bool) := by
  intro scene hfit
  obtain ⟨hresult, hstate, -⟩ := transport.serves_apply endpoint timeout scene
  rw [hresult, hstate]
  refine ⟨?_, hhandled.fit _ _ _ hfit⟩
  cases hread : transport.read endpoint.url timeout scene.network with
  | ok document => exact ⟨_, rfl⟩
  | error failure =>
      refine ⟨false, ?_⟩
      rw [verdict, if_pos (hhandled.failure _ _ _ failure hfit hread)]

theorem IsHandled.probePaths_succeeds (hhandled : transport.IsHandled fit) (limit deadline : τ)
    {address : SocketAddress} (haddress : address.HasUrls) {paths : List Value}
    (hpaths : ∀ path ∈ paths, ∃ text, path.text? = some text) :
    Succeeds (fun scene => fit scene.network)
      (transport.probePaths (some limit) deadline address paths :
        PartnerAction τ σ (Option Endpoint)) := by
  induction paths with
  | nil => exact succeeds_pure none
  | cons path rest ih =>
      obtain ⟨⟨text, htext⟩, hrest⟩ := List.forall_mem_cons.mp hpaths
      obtain ⟨endpoint, hendpoint⟩ := haddress text
      intro scene hfit
      unfold probePaths
      rw [now_bind_apply]
      split
      · exact ⟨⟨none, rfl⟩, hfit⟩
      · simp only [requirePath, htext, hendpoint, requireEndpoint, pure_bind]
        refine (hhandled.serves_succeeds endpoint _).bind (fun served => ?_) scene hfit
        cases served with
        | true => exact succeeds_pure (some endpoint)
        | false => exact ih hrest

theorem IsHandled.probePort_succeeds (hhandled : transport.IsHandled fit) {plan : ProbePlan τ}
    (hplan : plan.IsComplete) (deadline : τ) {addresses : List SocketAddress}
    (hurls : ∀ address ∈ addresses, address.HasUrls) :
    Succeeds (fun scene => fit scene.network)
      (transport.probePort plan deadline addresses : PartnerAction τ σ (Option Endpoint)) := by
  obtain ⟨limit, hlimit⟩ := hplan.timeout
  induction addresses with
  | nil => exact succeeds_pure none
  | cons address rest ih =>
      obtain ⟨haddress, hrest⟩ := List.forall_mem_cons.mp hurls
      unfold probePort
      rw [hlimit]
      refine (hhandled.probePaths_succeeds limit deadline haddress hplan.paths).bind fun found => ?_
      cases found with
      | some endpoint => exact succeeds_pure (some endpoint)
      | none => exact ih hrest

theorem IsHandled.sweepPorts_succeeds (hhandled : transport.IsHandled fit) {sweep : Sweep τ}
    (hplan : sweep.plan.IsComplete) (hurls : ∀ address ∈ sweep.addresses, address.HasUrls)
    (cursor : Slot σ Nat) (probed : Nat) (ports : List Int) :
    Succeeds (fun scene => fit scene.network) (transport.sweepPorts sweep cursor probed ports) := by
  induction ports generalizing probed with
  | nil => exact succeeds_pure []
  | cons port rest ih =>
      have hhere : ∀ address ∈ addressesOn sweep.addresses port, address.HasUrls :=
        fun address haddress => hurls address (mem_addressesOn.mp haddress).1
      unfold sweepPorts
      refine (hhandled.probePort_succeeds hplan sweep.deadline hhere).bind fun found => ?_
      intro scene hfit
      rw [now_bind_apply]
      split
      · exact ⟨⟨_, rfl⟩, hfit⟩
      · exact ((ih (probed + 1)).bind fun more => succeeds_pure _) scene hfit

/-- Where failures are handled, a scan comes to a result as soon as the open addresses are found
out. -/
theorem IsHandled.scanSockets_returns_iff (hhandled : transport.IsHandled fit) {plan : ProbePlan τ}
    (hplan : plan.IsComplete) {budget : τ} (hbudget : plan.budget = some budget)
    (cursor : Slot σ Nat) (scan : Scan τ σ) (hfit : fit scan.scene.network) :
    (∃ found, (transport.scanSockets plan cursor scan.known scan.scene).result = .ok found) ↔
      ∃ addresses, (openAddresses scan.known scan.scene).result = .ok addresses := by
  constructor
  · intro ⟨found, hfound⟩
    obtain ⟨addresses, hopen, -⟩ := result_bind hfound
    exact ⟨addresses, hopen⟩
  -- Open addresses have URLs, so nothing is left behind them that could fail unhandled.
  · intro ⟨addresses, hopen⟩
    have haddresses : scan.addresses = addresses := by rw [Scan.addresses, hopen]
    have hurls : ∀ address ∈ addresses, address.HasUrls := haddresses ▸ scan.addresses_hasUrls
    unfold scanSockets
    rw [bind_apply, hopen, SocketScanner.openAddresses_state, hbudget]
    dsimp only
    split
    · exact ⟨[], rfl⟩
    · rw [fetch_bind_apply, now_bind_apply]
      let sweep : Sweep τ := ⟨plan, budget, scan.scene.network.now + budget, addresses,
        cursor.get scan.scene.desk % (portsOf addresses).length, (portsOf addresses).length⟩
      have hsweep : Succeeds (fun scene => fit scene.network)
          (transport.sweepPorts sweep cursor 0 (rotate (portsOf addresses) sweep.start)) :=
        hhandled.sweepPorts_succeeds hplan hurls cursor 0 _
      obtain ⟨⟨found, hfound⟩, -⟩ := hsweep scan.scene hfit
      refine ⟨Endpoint.sort found, ?_⟩
      rw [bind_apply, hfound]
      rfl

end Success

/-! ### The host -/

/-- Where every answer fails only in ways that are handled, so does the host. -/
theorem host_isHandled {services : List (String × List (Answer τ))}
    (hhandled : ∀ service ∈ services, ∀ answer ∈ service.2, answer.IsHandled) :
    host.IsHandled fun network => network.services = services where
  failure url timeout network failure hservices hread := by
    have hnetwork : network.IsHandled := by
      intro url answer hanswer
      obtain ⟨service, hservice, hmem⟩ := Network.mem_services_of_answer? hanswer
      exact hhandled service (hservices ▸ hservice) answer hmem
    change (network.reply url timeout).bind Response.read = .error failure at hread
    cases hreply : network.reply url timeout with
    | error refused =>
        rw [hreply] at hread
        obtain rfl := Except.error.inj hread
        exact hnetwork.of_reply hreply
    | ok response =>
        obtain ⟨answer, hanswer, rfl⟩ := network.exists_answer_of_reply hreply
        rw [hreply] at hread
        have hfailure : (readProbe ⟨url, answer.status, answer.reason, answer.body⟩
            (⟨network, ()⟩ : Scene τ Unit)).result = .error failure :=
          (readProbe_result _ _).trans hread
        exact isHandled_of_readProbe (hnetwork url answer hanswer) hfailure
  fit _ _ _ hservices := hservices

/-- A probe that fails has no effect on a scan but for the time it takes, and a scan that fails
leaves no trace. Where all failures of probes are of the families that are handled and the listening
addresses are heard, a scan comes to a result just if there are URLs on all of them, as there are on
every plain address. Whatever carries the requests, a scan reports the same, posts the same and
leaves the same behind if something else answers in the place of probes that fail. And a scan that
fails leaves the desk as it was, with the cursor on it. All this holds of the scans of the host. -/
theorem failures_contained (transport : Transport τ) (plan : ProbePlan τ) (cursor : Slot σ Nat)
    (scan : Scan τ σ) :
    let outcome := transport.scanSockets plan cursor scan.known scan.scene
    (∀ fit heard budget, transport.IsHandled fit → fit scan.scene.network →
      (listening scan.scene).result = .ok heard → plan.IsComplete → plan.budget = some budget →
      ((∃ found, outcome.result = .ok found) ↔ ∀ address ∈ heard, address.HasUrls)) ∧
    (∀ address : SocketAddress, address.IsPlain → address.HasUrls) ∧
    (∀ other : Transport τ, other.StandsIn transport →
      let outcome' := other.scanSockets plan cursor scan.known scan.scene
      outcome'.result = outcome.result ∧ outcome'.state = outcome.state ∧
        outcome'.events.filter PartnerEvent.isPost = outcome.events.filter PartnerEvent.isPost) ∧
    (∀ failure, outcome.result = .error failure → outcome.state.desk = scan.scene.desk) ∧
    (host.scanSockets plan cursor scan.known : PartnerAction τ σ (List Endpoint)) =
      SubgraphLauncher.scanSockets plan cursor scan.known := by
  refine ⟨fun fit heard budget hhandled hfit hheard hplan hbudget => ?_,
    fun address hplain => hplain.hasUrls, fun other hother => ?_, fun failure hfailure => ?_,
    host_scanSockets plan cursor scan.known⟩
  · rw [hhandled.scanSockets_returns_iff hplan hbudget cursor scan hfit]
    exact openAddresses_returns_iff scan hheard
  · obtain ⟨hresult, hstate, hevents⟩ :=
      hother.scanSockets_matches plan cursor scan.known scan.scene scan.scene rfl
    exact ⟨hresult, hstate, hevents⟩
  · exact transport.scanSockets_failsClean plan cursor scan.known scan.scene failure hfailure

omit [Moment τ] in
theorem emptyAnswer_read (url : String) :
    (Response.mk url 200 "OK" "\x7b\x7d").read = (.ok (.object []) : Except (Failure τ) Value) := by
  have hstatus : (Response.mk url 200 "OK" "\x7b\x7d").statusFault? = none := by
    rw [Response.statusFault?_eq_none_iff]
    dsimp only
    omega
  have hparse : Json.parse "\x7b\x7d".toList = .ok (.object []) := by rfl
  rw [Response.read, hstatus]
  dsimp only
  rw [hparse]

/-- Answers with an empty object in the place of every probe that fails in a way that is handled. -/
def polite (transport : Transport τ) : Transport τ where
  answer url body timeout network :=
    let (reply, behind) := transport.answer url body timeout network
    match reply.bind Response.read with
    | .ok _ => (reply, behind)
    | .error failure =>
      (if failure.isHandled then .ok ⟨url, 200, "OK", "\x7b\x7d"⟩ else reply, behind)

omit [Moment τ] in
theorem polite_standsIn (transport : Transport τ) : transport.polite.StandsIn transport where
  behind url timeout network := by
    unfold behind polite
    dsimp only
    split <;> rfl
  read url timeout network := by
    unfold read polite
    dsimp only
    split
    · exact .inl rfl
    · next failure hfails =>
        cases hhandled : failure.isHandled with
        | false => exact .inl rfl
        | true =>
            refine .inr ⟨⟨failure, hfails, hhandled⟩, .object [], ?_, rfl⟩
            exact emptyAnswer_read url

end Transport

/-- The scope of the only address holds a sign that ends the authority of a URL. -/
def scopedScan : Scan Rat Nat where
  known := []
  scene := ⟨⟨0, [⟨some "fe80::1%eth#0", 4000, listenStatus, none, none⟩], false, [], false, []⟩, 0⟩

theorem scopedScan_isHandled :
    Transport.host.IsHandled fun network => network.services = scopedScan.scene.network.services :=
  Transport.host_isHandled (List.forall_mem_nil _)

/-- On an address in numbers there may be no URL, and then a scan fails before it sends anything. -/
theorem fails_scopedScan :
    (∀ socket ∈ scopedScan.scene.network.sockets, ∃ ip, socket.ip = some ip ∧
      (Url.version? ip.toList).isSome = true) ∧
    (listening scopedScan.scene).result = .ok [⟨"fe80::1%eth#0", 4000⟩] ∧
    Transport.host.IsHandled (fun network => network.services = scopedScan.scene.network.services) ∧
    hastyScanner.plan.IsComplete ∧
    (hastyScanner.run scopedScan).result = .error (.valueError "Invalid IPv6 URL") := by
  refine ⟨fun socket hsocket => ?_, by decide +kernel, scopedScan_isHandled,
    hastyScanner_isComplete, ?_⟩
  · obtain rfl := List.mem_singleton.mp hsocket
    exact ⟨_, rfl, by decide +kernel⟩
  · have hclosed : (openAddresses scopedScan.known scopedScan.scene).result =
        .error (.valueError "Invalid IPv6 URL") := by
      decide +kernel
    rw [SocketScanner.run_of_closed hclosed]

/-- The first probe of the crowded scan is refused. The scan comes to a result all the same, and to
the same one as if an empty object were answered. -/
theorem failures_contained_crowdedScan :
    Transport.host.IsHandled (fun network =>
      network.services = crowdedScan.scene.network.services) ∧
    (listening crowdedScan.scene).result = .ok crowdedAddresses ∧
    twoPathScanner.plan.IsComplete ∧
    (∃ failure, Transport.host.read "http://127.0.0.1:4001/" (some (1 / 2))
      crowdedScan.scene.network = .error failure ∧ failure.isHandled) ∧
    Transport.host.polite.StandsIn (Transport.host : Transport Rat) ∧
    ∃ found, (twoPathScanner.run crowdedScan).result = .ok found ∧
      (Transport.host.polite.scanSockets twoPathScanner.plan twoPathScanner.cursor
        crowdedScan.known crowdedScan.scene).result = .ok found := by
  have hhandled : Transport.host.IsHandled (fun network =>
      network.services = crowdedScan.scene.network.services) := by
    refine Transport.host_isHandled fun service hservice answer hanswer => ?_
    have hsame : ∀ service ∈ crowdedScan.scene.network.services, service.2 = [graphAnswer] := by
      simp [crowdedScan]
    rw [hsame service hservice, List.mem_singleton] at hanswer
    rw [hanswer]
    exact graphAnswer_isHandled
  have hcomplete : twoPathScanner.plan.IsComplete := by
    refine ⟨⟨_, rfl⟩, fun path hpath => ?_⟩
    simp only [SocketScanner.plan, twoPathScanner, List.mem_cons, List.not_mem_nil, or_false]
      at hpath
    rcases hpath with rfl | rfl
    · exact ⟨_, rfl⟩
    · exact ⟨_, rfl⟩
  obtain ⟨hreturns, -, hsame, -, hhost⟩ := Transport.failures_contained Transport.host
    twoPathScanner.plan twoPathScanner.cursor crowdedScan
  obtain ⟨found, hfound⟩ := (hreturns _ _ _ hhandled rfl crowdedScan_hears hcomplete rfl).mpr
    crowdedScan_hasUrls
  obtain ⟨hresult, -, -⟩ := hsame _ Transport.host.polite_standsIn
  refine ⟨hhandled, crowdedScan_hears, hcomplete, ⟨_, rfl, rfl⟩, Transport.host.polite_standsIn,
    found, ?_, hresult.trans hfound⟩
  rw [SocketScanner.run, ← hhost]
  exact hfound

end SubgraphLauncher
