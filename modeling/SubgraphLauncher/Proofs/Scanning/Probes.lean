import SubgraphLauncher.Proofs.Scanning.Frame
import SubgraphLauncher.Proofs.Scanning.Fresh

/-!
# What probing a port comes to

A probe that is sent is on record, whatever comes of it. Where the settings of a scanner are
complete and all failures of the network are of the families that the scanner takes for no answer,
probing comes to a result. It posts to the first address of a port if it begins before the deadline;
to the next ones only if the deadline has not come when those before them have been probed, since
all addresses of a port share what is left of the budget.
-/

namespace SubgraphLauncher

open SubgraphLauncher.Action

variable {τ σ : Type}

/-- The failures that a scanner takes for no answer. -/
def Failure.isHandled (failure : Failure τ) : Bool := failure.isIn .request || failure.isIn .value

/-- Whatever a probe meets with in a scene, at any time, is taken for no answer. -/
def Scene.IsHandled [Moment τ] (scene : Scene τ σ) : Prop :=
  ∀ later : Scene τ σ, later.timeless = scene.timeless → ∀ url timeout failure,
    ((post url probeBody timeout >>= readProbe) later).result = .error failure → failure.isHandled

/-- The settings that a probe needs are there. -/
structure ProbePlan.IsComplete (plan : ProbePlan τ) : Prop where
  timeout : ∃ limit, plan.timeout = some limit
  paths : ∀ path ∈ plan.paths, ∃ text, path.text? = some text

/-- There are endpoints on an address. -/
def SocketAddress.HasUrls (address : SocketAddress) : Prop :=
  ∀ path, ∃ endpoint, Endpoint.ofSocket address.ip address.port path = .ok endpoint

/-- A probe of an endpoint on the address is among the events. -/
def SocketAddress.ProbedIn (address : SocketAddress) (events : List (PartnerEvent τ)) : Prop :=
  ∃ (endpoint : Endpoint) (timeout : Option τ),
    endpoint.IsOn address ∧ .post endpoint.url probeBody timeout ∈ events

/-- Whether there are endpoints on an address shows at its root. -/
theorem SocketAddress.hasUrls_iff (address : SocketAddress) :
    address.HasUrls ↔ (Endpoint.ofSocket address.ip address.port "/").isOk = true := by
  constructor
  · intro hurls
    obtain ⟨root, hroot⟩ := hurls "/"
    rw [hroot]
    rfl
  · intro hok path
    rw [Endpoint.isOk_ofSocket, ← Endpoint.isOk_ofSocket address.ip address.port path] at hok
    exact exists_of_isOk hok

theorem SocketAddress.IsLeft.hasUrls {origins : List Endpoint} {address : SocketAddress}
    (hleft : address.IsLeft origins) : address.HasUrls := by
  obtain ⟨root, -, hroot, -, -⟩ := hleft
  rw [SocketAddress.hasUrls_iff, hroot]
  rfl

section Probing

variable [Moment τ]

theorem Scene.IsHandled.of_timeless {scene later : Scene τ σ} (hscene : scene.IsHandled)
    (hlater : later.timeless = scene.timeless) : later.IsHandled :=
  fun last hlast => hscene last (hlast.trans hlater)

/-- Where no service ever answers, a request is refused or times out. -/
theorem Scene.isHandled_of_silent {scene : Scene τ σ}
    (hsilent : ∀ service ∈ scene.network.services, ∀ answer ∈ service.2, answer.hangs) :
    scene.IsHandled := by
  intro later hlater url timeout failure hfailure
  have hservices : later.network.services = scene.network.services := by
    have hsame : later.timeless.network.services = scene.timeless.network.services := by rw [hlater]
    exact hsame
  have hpost : ∃ failure, failure.isHandled ∧
      (post url probeBody timeout later).result = .error failure := by
    rw [post_apply]
    unfold Network.reply
    cases hanswer : later.network.answer? url with
    | none => exact ⟨_, rfl, rfl⟩
    | some answer =>
        obtain ⟨service, hservice, hmem⟩ := Network.mem_services_of_answer? hanswer
        have hhangs := hsilent service (hservices ▸ hservice) answer hmem
        have hlate : answer.isLate timeout := by simp [Answer.isLate, hhangs]
        simp only [hlate, if_true]
        exact ⟨_, rfl, rfl⟩
  obtain ⟨met, hhandled, hmet⟩ := hpost
  rw [bind_apply, hmet] at hfailure
  rwa [← Except.error.inj hfailure]

/-- A probe is sent before anything can come of it. -/
theorem servesGraphQL_posts (endpoint : Endpoint) (timeout : Option τ) (scene : Scene τ σ) :
    .post endpoint.url probeBody timeout ∈ (servesGraphQL endpoint timeout scene).events := by
  have hpost : .post endpoint.url probeBody timeout ∈
      (post endpoint.url probeBody timeout scene).events := by
    rw [post_apply]
    exact List.mem_cons_self
  rw [servesGraphQL_eq]
  refine mem_events_bind ?_ _
  rw [attempt_apply]
  exact mem_events_bind hpost _

/-- A probe whose failure is handled comes to a result. -/
theorem servesGraphQL_returns_of_handled (endpoint : Endpoint) {timeout : Option τ}
    {scene : Scene τ σ}
    (hhandled : ∀ failure,
      ((post endpoint.url probeBody timeout >>= readProbe) scene).result = .error failure →
        failure.isHandled) :
    ∃ served, (servesGraphQL endpoint timeout scene).result = .ok served := by
  rw [servesGraphQL_eq, bind_apply, attempt_apply]
  cases hprobe : ((post endpoint.url probeBody timeout >>= readProbe) scene).result with
  | ok document => exact ⟨_, rfl⟩
  | error failure =>
      have hfailure : failure.isIn .request || failure.isIn .value := hhandled failure hprobe
      refine ⟨false, ?_⟩
      unfold judgeProbe
      dsimp only
      rw [if_pos hfailure]
      rfl

theorem servesGraphQL_returns (endpoint : Endpoint) (timeout : Option τ) {scene : Scene τ σ}
    (hscene : scene.IsHandled) :
    ∃ served, (servesGraphQL endpoint timeout scene).result = .ok served :=
  servesGraphQL_returns_of_handled endpoint fun failure hfailure =>
    hscene scene rfl endpoint.url timeout failure hfailure

/-! ### The paths of an address -/

/-- The first path of an address takes its turn unless the deadline has come. -/
theorem probePaths_cons {limit deadline : τ} {address : SocketAddress} {path : Value}
    {text : String} {endpoint : Endpoint} (htext : path.text? = some text)
    (hendpoint : Endpoint.ofSocket address.ip address.port text = .ok endpoint) (rest : List Value)
    (scene : Scene τ σ) :
    probePaths (some limit) deadline address (path :: rest) scene =
      if deadline - scene.network.now ≤ 0 then ⟨.ok none, scene, []⟩
      else (do
        let served ← servesGraphQL endpoint (some (shorter limit (deadline - scene.network.now)))
        if served then return some endpoint
        else probePaths (some limit) deadline address rest) scene := by
  conv => lhs; unfold probePaths
  rw [now_bind_apply]
  simp only [requirePath, htext, hendpoint, requireEndpoint, pure_bind]
  split <;> rfl

theorem probePaths_of_spent {deadline : τ} {scene : Scene τ σ}
    (hspent : deadline - scene.network.now ≤ 0) (timeout : Option τ) (address : SocketAddress)
    (paths : List Value) :
    probePaths timeout deadline address paths scene = ⟨.ok none, scene, []⟩ := by
  cases paths with
  | nil => rfl
  | cons path rest =>
      unfold probePaths
      rw [now_bind_apply, if_pos hspent]
      rfl

variable {plan : ProbePlan τ} {deadline : τ}

theorem probePaths_returns (deadline : τ) (hplan : plan.IsComplete) {address : SocketAddress}
    (haddress : address.HasUrls) {scene : Scene τ σ} (hscene : scene.IsHandled) :
    ∃ found, (probePaths plan.timeout deadline address plan.paths scene).result = .ok found := by
  obtain ⟨limit, hlimit⟩ := hplan.timeout
  have htexts := hplan.paths
  rw [hlimit]
  clear hplan hlimit
  generalize plan.paths = paths at htexts ⊢
  induction paths generalizing scene with
  | nil => exact ⟨none, rfl⟩
  | cons path rest ih =>
      obtain ⟨⟨text, htext⟩, hrest⟩ := List.forall_mem_cons.mp htexts
      obtain ⟨endpoint, hendpoint⟩ := haddress text
      rw [probePaths_cons htext hendpoint]
      split
      · exact ⟨none, rfl⟩
      · obtain ⟨served, hserved⟩ := servesGraphQL_returns endpoint
          (some (shorter limit (deadline - scene.network.now))) hscene
        rw [bind_apply, hserved]
        cases served with
        | true => exact ⟨some endpoint, rfl⟩
        | false => exact ih (hscene.of_timeless (servesGraphQL_keeps endpoint _ scene)) hrest

theorem probePaths_probes (hplan : plan.IsComplete) (hpaths : plan.paths ≠ [])
    {address : SocketAddress} (haddress : address.HasUrls) {scene : Scene τ σ}
    (hleft : ¬ deadline - scene.network.now ≤ 0) :
    address.ProbedIn (probePaths plan.timeout deadline address plan.paths scene).events := by
  obtain ⟨limit, hlimit⟩ := hplan.timeout
  obtain ⟨path, rest, hcons⟩ := List.exists_cons_of_ne_nil hpaths
  obtain ⟨text, htext⟩ := hplan.paths path (hcons ▸ List.mem_cons_self)
  obtain ⟨endpoint, hendpoint⟩ := haddress text
  rw [hlimit, hcons, probePaths_cons htext hendpoint, if_neg hleft]
  exact ⟨endpoint, _, ⟨text, hendpoint⟩, mem_events_bind (servesGraphQL_posts endpoint _ scene) _⟩

/-! ### The addresses of a port -/

theorem probePort_cons (address : SocketAddress) (rest : List SocketAddress) :
    (probePort plan deadline (address :: rest) : PartnerAction τ σ (Option Endpoint)) =
      probePaths plan.timeout deadline address plan.paths >>= fun
        | some endpoint => pure (some endpoint)
        | none => probePort plan deadline rest := rfl

theorem probePort_append (front back : List SocketAddress) :
    (probePort plan deadline (front ++ back) : PartnerAction τ σ (Option Endpoint)) =
      probePort plan deadline front >>= fun
        | some endpoint => pure (some endpoint)
        | none => probePort plan deadline back := by
  induction front with
  | nil => exact (pure_bind _ _).symm
  | cons address rest ih =>
      rw [List.cons_append, probePort_cons, probePort_cons, bind_assoc]
      congr 1
      funext found
      cases found with
      | some endpoint => exact (pure_bind _ _).symm
      | none => exact ih

theorem probePort_of_spent {scene : Scene τ σ} (hspent : deadline - scene.network.now ≤ 0)
    (addresses : List SocketAddress) :
    probePort plan deadline addresses scene = ⟨.ok none, scene, []⟩ := by
  induction addresses with
  | nil => rfl
  | cons address rest ih =>
      rw [probePort_cons, bind_apply, probePaths_of_spent hspent]
      dsimp only
      rw [ih]
      rfl

theorem probePort_returns (hplan : plan.IsComplete) {addresses : List SocketAddress}
    (haddresses : ∀ address ∈ addresses, address.HasUrls) {scene : Scene τ σ}
    (hscene : scene.IsHandled) :
    ∃ found, (probePort plan deadline addresses scene).result = .ok found := by
  induction addresses generalizing scene with
  | nil => exact ⟨none, rfl⟩
  | cons address rest ih =>
      obtain ⟨haddress, hrest⟩ := List.forall_mem_cons.mp haddresses
      obtain ⟨found, hfound⟩ := probePaths_returns deadline hplan haddress hscene
      rw [probePort_cons, bind_apply, hfound]
      cases found with
      | some endpoint => exact ⟨some endpoint, rfl⟩
      | none => exact ih hrest (hscene.of_timeless (probePaths_keeps _ _ _ _ scene))

/-- The first address of a port is probed if there is time left. -/
theorem probePort_probes_head (hplan : plan.IsComplete) (hpaths : plan.paths ≠ [])
    {address : SocketAddress} (haddress : address.HasUrls) (rest : List SocketAddress)
    {scene : Scene τ σ} (hleft : ¬ deadline - scene.network.now ≤ 0) :
    address.ProbedIn (probePort plan deadline (address :: rest) scene).events := by
  obtain ⟨endpoint, timeout, hon, hpost⟩ :=
    probePaths_probes hplan hpaths haddress hleft
  rw [probePort_cons]
  exact ⟨endpoint, timeout, hon, mem_events_bind hpost _⟩

/-- Where a port is probed to the end, one of its addresses is probed, or an endpoint is found, or
there is no time left when the addresses before it have been probed. -/
theorem probePort_reaches (hplan : plan.IsComplete) (hpaths : plan.paths ≠ [])
    {address : SocketAddress} (haddress : address.HasUrls) (front back : List SocketAddress)
    {scene : Scene τ σ} {found : Option Endpoint}
    (hfound : (probePort plan deadline (front ++ address :: back) scene).result = .ok found) :
    address.ProbedIn (probePort plan deadline (front ++ address :: back) scene).events ∨
      found.isSome ∨
      deadline - (probePort plan deadline front scene).state.network.now ≤ 0 ∧
        probePort plan deadline (front ++ address :: back) scene =
          probePort plan deadline front scene := by
  rw [probePort_append] at hfound ⊢
  obtain ⟨before, hbefore, hrest⟩ := result_bind hfound
  rw [bind_apply, hbefore]
  cases before with
  | some endpoint =>
      obtain rfl := Except.ok.inj hrest
      exact .inr (.inl rfl)
  | none =>
      by_cases hspent : deadline - (probePort plan deadline front scene).state.network.now ≤ 0
      · refine .inr (.inr ⟨hspent, ?_⟩)
        dsimp only
        rw [probePort_of_spent hspent, List.append_nil, ← hbefore]
      · obtain ⟨endpoint, timeout, hon, hpost⟩ :=
          probePort_probes_head hplan hpaths haddress back hspent
        exact .inl ⟨endpoint, timeout, hon, List.mem_append_right _ hpost⟩

end Probing

end SubgraphLauncher
