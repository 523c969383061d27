import Mathlib.Tactic.Linarith
import SubgraphLauncher.Proofs.Scanning.Frame

/-!
# How long a scan takes

Time is exact here. Within a scan only requests take time, and each is sent with a limit: what a
single probe is allowed, or what is left until the deadline of the scan, whichever is shorter. So a
scan that began before its deadline ends no later than its deadline, whatever is answered, and
however late.
-/

namespace SubgraphLauncher

open SubgraphLauncher.Action

variable {σ : Type}

/-- The scene after some time. -/
def Scene.later (duration : Rat) (scene : Scene Rat σ) : Scene Rat σ :=
  { scene with network := { scene.network with now := scene.network.now + duration } }

/-- In scenes of a kind, a scan takes between no time and the budget. It leaves a scene of the kind
behind, and so does the passing of time. -/
structure Scanner.Timely (Fit : Scene Rat σ → Prop) (budget : Rat) (scanner : Scanner Rat σ) :
    Prop where
  notBefore : ∀ known scene, Fit scene →
    scene.network.now ≤ (scanner.scan known scene).state.network.now
  notAfter : ∀ known scene, Fit scene →
    (scanner.scan known scene).state.network.now ≤ scene.network.now + budget
  fit : ∀ known scene, Fit scene → Fit (scanner.scan known scene).state
  later : ∀ duration scene, 0 ≤ duration → Fit scene → Fit (scene.later duration)

/-- In scenes of a kind, a choice takes no time and leaves a scene of the kind behind. -/
structure Chooser.Instant (Fit : Scene Rat σ → Prop) (chooser : Chooser Rat σ) : Prop where
  now : ∀ candidates scene, Fit scene →
    (chooser.choose candidates scene).state.network.now = scene.network.now
  fit : ∀ candidates scene, Fit scene → Fit (chooser.choose candidates scene).state

/-- No service answers before it is asked. -/
def Network.Causal (network : Network Rat) : Prop :=
  ∀ service ∈ network.services, ∀ answer ∈ service.2, 0 ≤ answer.delay

theorem shorter_eq_min (a b : Rat) : shorter a b = min a b := by
  unfold shorter
  split
  · rw [min_eq_right (le_of_lt ‹_›)]
  · rw [min_eq_left (not_lt.mp ‹_›)]

/-! ### Parts of a scan that may take time -/

/-- Time goes on to another scene, but not beyond a deadline that it has not passed before. -/
structure Scene.Until (deadline : Rat) (before after : Scene Rat σ) : Prop where
  services : after.network.services = before.network.services
  notBefore : before.network.now ≤ after.network.now
  notAfter : before.network.now ≤ deadline → after.network.now ≤ deadline

/-- Whatever comes of it, the action leaves a scene behind where services are the same and time has
not gone beyond the deadline. -/
def MeetsDeadline {α : Type} (deadline : Rat) (x : PartnerAction Rat σ α) : Prop :=
  ∀ scene : Scene Rat σ, scene.network.Causal → scene.Until deadline (x scene).state

namespace Scene

theorem Until.of_network {deadline : Rat} {before after : Scene Rat σ}
    (hnetwork : after.network = before.network) : before.Until deadline after := by
  constructor
  · rw [hnetwork]
  · rw [hnetwork]
  · rw [hnetwork]
    exact id

theorem Until.trans {deadline : Rat} {first second third : Scene Rat σ}
    (hfirst : first.Until deadline second) (hsecond : second.Until deadline third) :
    first.Until deadline third where
  services := hsecond.services.trans hfirst.services
  notBefore := hfirst.notBefore.trans hsecond.notBefore
  notAfter htime := hsecond.notAfter (hfirst.notAfter htime)

end Scene

section Deadline

variable {α β : Type} {deadline : Rat}

theorem Network.Causal.of_services {network later : Network Rat} (hcausal : network.Causal)
    (hservices : later.services = network.services) : later.Causal := by
  unfold Causal
  rw [hservices]
  exact hcausal

theorem MeetsDeadline.of_keeps {x : PartnerAction Rat σ α} (hx : Keeps Scene.network x) :
    MeetsDeadline deadline x :=
  fun scene _ => .of_network (hx scene)

theorem Scene.Until.bind {scene : Scene Rat σ} {x : PartnerAction Rat σ α}
    {f : α → PartnerAction Rat σ β} (hx : scene.Until deadline (x scene).state)
    (hcausal : scene.network.Causal) (hf : ∀ a, MeetsDeadline deadline (f a)) :
    scene.Until deadline ((x >>= f) scene).state := by
  rw [bind_apply]
  cases (x scene).result with
  | error failure => exact hx
  | ok a => exact hx.trans (hf a _ (hcausal.of_services hx.services))

theorem MeetsDeadline.bind {x : PartnerAction Rat σ α} {f : α → PartnerAction Rat σ β}
    (hx : MeetsDeadline deadline x) (hf : ∀ a, MeetsDeadline deadline (f a)) :
    MeetsDeadline deadline (x >>= f) :=
  fun scene hcausal => (hx scene hcausal).bind hcausal hf

/-- After what takes no time, it is as early as before. -/
theorem until_bind_of_keeps {scene : Scene Rat σ} {x : PartnerAction Rat σ α}
    {f : α → PartnerAction Rat σ β} (hx : Keeps Scene.network x)
    (hf : ∀ a (later : Scene Rat σ), later.network = scene.network →
      later.Until deadline (f a later).state) :
    scene.Until deadline ((x >>= f) scene).state := by
  have hsame := hx scene
  rw [bind_apply]
  cases (x scene).result with
  | error failure => exact .of_network hsame
  | ok a => exact (Scene.Until.of_network hsame).trans (hf a _ hsame)

theorem Network.Causal.answer {network : Network Rat} (hcausal : network.Causal) {url : String}
    {answer : Answer Rat} (hanswer : network.answer? url = some answer) : 0 ≤ answer.delay := by
  obtain ⟨service, hservice, hmem⟩ := Network.mem_services_of_answer? hanswer
  exact hcausal service hservice answer hmem

/-- How long a request takes. -/
def Network.requestTime (network : Network Rat) (url : String) (timeout : Option Rat) : Rat :=
  match network.answer? url with
  | none => 0
  | some answer => if answer.isLate timeout then timeout.getD 0 else answer.delay

theorem post_network (url : String) (body : Value) (timeout : Option Rat) (scene : Scene Rat σ) :
    (post url body timeout scene).state.network =
      (scene.later (scene.network.requestTime url timeout)).network := by
  rw [post_apply]
  unfold Network.behind Network.requestTime
  cases scene.network.answer? url with
  | none => simp [Scene.later]
  | some answer => rfl

theorem Network.requestTime_mem {network : Network Rat} (hcausal : network.Causal) (url : String)
    {limit : Rat} (hlimit : 0 < limit) :
    0 ≤ network.requestTime url (some limit) ∧ network.requestTime url (some limit) ≤ limit := by
  unfold requestTime
  cases hanswer : network.answer? url with
  | none => exact ⟨le_refl 0, hlimit.le⟩
  | some answer =>
      dsimp only
      by_cases hlate : answer.isLate (some limit)
      · rw [if_pos hlate]
        exact ⟨hlimit.le, le_refl limit⟩
      · have hearly : ¬ limit ≤ answer.delay := by
          intro hdelay
          apply hlate
          simp [Answer.isLate, hdelay]
        rw [if_neg hlate]
        exact ⟨hcausal.answer hanswer, (not_le.mp hearly).le⟩

/-- A request takes no longer than its limit. -/
theorem post_until {url : String} {body : Value} {limit : Rat} (hlimit : 0 < limit)
    {scene : Scene Rat σ} (hcausal : scene.network.Causal)
    (hdeadline : scene.network.now + limit ≤ deadline) :
    scene.Until deadline (post url body (some limit) scene).state := by
  obtain ⟨hnonneg, hshort⟩ := Network.requestTime_mem hcausal url hlimit
  constructor
  · rw [post_network]
    rfl
  · rw [post_network]
    change scene.network.now ≤ scene.network.now + _
    linarith
  · intro _
    rw [post_network]
    change scene.network.now + _ ≤ deadline
    linarith

theorem servesGraphQL_until (endpoint : Endpoint) {limit : Rat} (hlimit : 0 < limit)
    {scene : Scene Rat σ} (hcausal : scene.network.Causal)
    (hdeadline : scene.network.now + limit ≤ deadline) :
    scene.Until deadline (servesGraphQL endpoint (some limit) scene).state :=
  (post_until hlimit hcausal hdeadline).trans (.of_network (by rw [servesGraphQL_state]))

theorem probePaths_meetsDeadline {limit : Rat} (hlimit : 0 < limit) (address : SocketAddress)
    (paths : List Value) :
    MeetsDeadline deadline
      (probePaths (some limit) deadline address paths : PartnerAction Rat σ _) := by
  induction paths with
  | nil => exact .of_keeps (keeps_pure _)
  | cons path rest ih =>
      intro scene hcausal
      unfold probePaths
      rw [now_bind_apply]
      by_cases hover : deadline - scene.network.now ≤ 0
      · rw [if_pos hover]
        exact .of_network rfl
      · rw [if_neg hover]
        have hremaining := not_le.mp hover
        refine until_bind_of_keeps (requirePath_keeps path) fun text typed htyped => ?_
        refine until_bind_of_keeps (requireEndpoint_keeps _) fun endpoint ready hready => ?_
        have hnetwork := hready.trans htyped
        have hcausal' : ready.network.Causal := hcausal.of_services (by rw [hnetwork])
        dsimp only
        rw [shorter_eq_min]
        have hpositive : 0 < min limit (deadline - scene.network.now) :=
          lt_min hlimit hremaining
        have hshort : ready.network.now + min limit (deadline - scene.network.now) ≤ deadline := by
          rw [hnetwork]
          linarith [min_le_right limit (deadline - scene.network.now)]
        have hserved := servesGraphQL_until (σ := σ) endpoint hpositive hcausal' hshort
        refine hserved.bind hcausal' fun served => ?_
        cases served with
        | true => exact .of_keeps (keeps_pure _)
        | false => exact ih

theorem probePort_meetsDeadline {plan : ProbePlan Rat} {limit : Rat}
    (hplan : plan.timeout = some limit) (hlimit : 0 < limit) (addresses : List SocketAddress) :
    MeetsDeadline deadline (probePort plan deadline addresses : PartnerAction Rat σ _) := by
  induction addresses with
  | nil => exact .of_keeps (keeps_pure _)
  | cons address rest ih =>
      unfold probePort
      rw [hplan]
      refine (probePaths_meetsDeadline hlimit address plan.paths).bind fun found => ?_
      cases found with
      | some endpoint => exact .of_keeps (keeps_pure _)
      | none => exact ih

theorem sweepPorts_meetsDeadline {sweep : Sweep Rat} {limit : Rat}
    (hplan : sweep.plan.timeout = some limit) (hlimit : 0 < limit) (cursor : Slot σ Nat)
    (probed : Nat) (ports : List Int) :
    MeetsDeadline sweep.deadline (sweepPorts sweep cursor probed ports) := by
  induction ports generalizing probed with
  | nil => exact .of_keeps (keeps_pure _)
  | cons port rest ih =>
      unfold sweepPorts
      refine (probePort_meetsDeadline hplan hlimit _).bind fun found => ?_
      refine MeetsDeadline.bind (.of_keeps now_keeps) fun now => ?_
      split
      · refine .of_keeps ((keeps_emit _).bind fun _ => (keep_keeps cursor _).bind fun _ => ?_)
        exact keeps_pure _
      · exact (ih (probed + 1)).bind fun _ => .of_keeps (keeps_pure _)

end Deadline

/-! ### Whole scans -/

section Scan

variable {plan : ProbePlan Rat} {limit budget : Rat}

/-- A scan of the sockets goes on for no longer than its budget. -/
theorem scanSockets_until (hplan : plan.timeout = some limit) (hlimit : 0 < limit)
    (hbudget : plan.budget = some budget) (cursor : Slot σ Nat) (known : List Endpoint)
    {scene : Scene Rat σ} (hcausal : scene.network.Causal) :
    scene.Until (scene.network.now + budget) (scanSockets plan cursor known scene).state := by
  unfold scanSockets
  refine until_bind_of_keeps (originsOf_keeps known) fun origins first hfirst => ?_
  refine until_bind_of_keeps listening_keeps fun heard second hsecond => ?_
  refine until_bind_of_keeps (uncovered_keeps origins heard) fun addresses third hthird => ?_
  rw [hbudget]
  dsimp only
  split
  · exact .of_network rfl
  · refine until_bind_of_keeps (fetch_keeps cursor) fun start fourth hfourth => ?_
    have hnetwork : fourth.network = scene.network :=
      hfourth.trans (hthird.trans (hsecond.trans hfirst))
    have hcausal' : fourth.network.Causal := hcausal.of_services (by rw [hnetwork])
    rw [now_bind_apply, hnetwork]
    let sweep : Sweep Rat := ⟨plan, budget, scene.network.now + budget, addresses,
      start % (portsOf addresses).length, (portsOf addresses).length⟩
    have hswept : MeetsDeadline sweep.deadline
        (sweepPorts sweep cursor 0 (rotate (portsOf addresses) sweep.start)) :=
      sweepPorts_meetsDeadline hplan hlimit cursor 0 _
    exact hswept.bind (fun _ => .of_keeps (keeps_pure _)) fourth hcausal'

/-- A scanner of sockets with a budget keeps to it, if no service answers before it is asked. -/
theorem Scanner.ofSockets_timely (hplan : plan.timeout = some limit) (hlimit : 0 < limit)
    (hbudget : plan.budget = some budget) (hnonneg : 0 ≤ budget) (cursor : Slot σ Nat) :
    (Scanner.ofSockets plan cursor).Timely (fun scene => scene.network.Causal) budget where
  notBefore known _ hcausal :=
    (scanSockets_until hplan hlimit hbudget cursor known hcausal).notBefore
  notAfter known _ hcausal :=
    (scanSockets_until hplan hlimit hbudget cursor known hcausal).notAfter
      (le_add_of_nonneg_right hnonneg)
  fit known _ hcausal :=
    hcausal.of_services (scanSockets_until hplan hlimit hbudget cursor known hcausal).services
  later _ _ _ hcausal := hcausal

end Scan

end SubgraphLauncher
