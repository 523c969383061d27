import SubgraphLauncher.Proofs.Scanning.Clock
import SubgraphLauncher.Proofs.Scanning.Report

/-!
# The schedule of a scan

What a scan sends can be said without its loops. Put all places where it may look in one row: the
ports in their order, on each port the addresses in theirs, on each address the paths in theirs. The
scan goes along that row, passes over what is left of a port that has answered, and ends where the
deadline has come. `SocketScanner.run_follows_schedule` says that this is all that it does.

The loops test the deadline in two places, before each path and behind each port. Both come to the
same, since no time passes between two requests.
-/

namespace SubgraphLauncher

open SubgraphLauncher.Action

variable {τ σ : Type}

/-! ### The row of all places -/

/-- A place where a scan may look: a path on an address. -/
structure Target where
  address : SocketAddress
  path : String
  deriving DecidableEq, Repr

def Target.url (target : Target) : String :=
  Endpoint.socketUrl target.address.ip target.address.port target.path

/-- A request under way: in which network it was sent, where to, and for how long an answer is
waited for. -/
structure Request (τ : Type) where
  network : Network τ
  target : Target
  limit : τ

def Request.event (request : Request τ) : PartnerEvent τ :=
  .post request.target.url probeBody (some request.limit)

section Schedule

variable [Moment τ]

/-- What answers the request is a GraphQL server. -/
def Request.IsConfirmed (request : Request τ) : Prop :=
  request.network.Confirms request.target.url request.limit

instance (request : Request τ) : Decidable request.IsConfirmed :=
  inferInstanceAs (Decidable (request.network.Confirms _ _))

/-- The request that is sent now, if a single probe may take some time and the deadline is set. -/
def Request.upTo (limit deadline : τ) (network : Network τ) (target : Target) : Request τ :=
  ⟨network, target, shorter limit (deadline - network.now)⟩

/-- The network in which the request is over. -/
def Request.behind (request : Request τ) : Network τ :=
  { request.network with now := request.network.behind request.target.url (some request.limit) }

/-- The requests that are sent along a row of targets, from a network on in which some ports have
answered already, and the network behind the last of them. Without a timeout there is nothing to
send. -/
def scheduled (timeout : Option τ) (deadline : τ) :
    Network τ → List Int → List Target → List (Request τ) × Network τ
  | network, _, [] => ([], network)
  | network, answered, target :: rest =>
    if target.address.port ∈ answered then scheduled timeout deadline network answered rest
    else if deadline ≤ network.now then ([], network)
    else match timeout with
      | none => ([], network)
      | some limit =>
        let request := Request.upTo limit deadline network target
        let more := scheduled timeout deadline request.behind
          (if request.IsConfirmed then target.address.port :: answered else answered) rest
        (request :: more.1, more.2)

/-- The targets on one address. -/
def targetsOn (paths : List Value) (address : SocketAddress) : List Target :=
  (paths.filterMap Value.text?).map fun path => ⟨address, path⟩

namespace SocketScanner

def deadline (scanner : SocketScanner τ σ) (scan : Scan τ σ) : τ :=
  scan.scene.network.now + scanner.budget

/-- The row along which a scan goes: the ports in increasing order, from the place of the cursor to
the end and on from the front, the addresses of a port in the order of preference, and the paths in
the order of the settings. -/
def targets (scanner : SocketScanner τ σ) (scan : Scan τ σ) : List Target :=
  (rotate scan.ports (scanner.place scan % scan.ports.length)).flatMap fun port =>
    (addressesOn scan.addresses port).flatMap (targetsOn scanner.paths)

/-- What a scan is to send, and the network that is to be there when it is over. -/
def schedule (scanner : SocketScanner τ σ) (scan : Scan τ σ) : List (Request τ) × Network τ :=
  scheduled scanner.timeout (scanner.deadline scan) scan.scene.network [] (scanner.targets scan)

end SocketScanner

/-! ### Going along the row -/

section Row

variable {timeout : Option τ} {deadline : τ} {network : Network τ} {answered : List Int}

theorem scheduled_of_spent (hspent : deadline ≤ network.now) (targets : List Target) :
    scheduled timeout deadline network answered targets = ([], network) := by
  induction targets with
  | nil => rfl
  | cons target rest ih =>
      unfold scheduled
      split
      · exact ih
      · rfl

/-- Targets on ports that have answered are passed over. -/
theorem scheduled_of_answered {targets : List Target}
    (hall : ∀ target ∈ targets, target.address.port ∈ answered) (rest : List Target) :
    scheduled timeout deadline network answered (targets ++ rest) =
      scheduled timeout deadline network answered rest := by
  induction targets with
  | nil => rfl
  | cons target more ih =>
      obtain ⟨htarget, hmore⟩ := List.forall_mem_cons.mp hall
      rw [List.cons_append]
      conv => lhs; unfold scheduled
      rw [if_pos htarget]
      exact ih hmore

theorem scheduled_cons {limit : τ} {target : Target} (hopen : target.address.port ∉ answered)
    (hleft : ¬ deadline ≤ network.now) (rest : List Target) :
    scheduled (some limit) deadline network answered (target :: rest) =
      let request := Request.upTo limit deadline network target
      let more := scheduled (some limit) deadline request.behind
        (if request.IsConfirmed then target.address.port :: answered else answered) rest
      (request :: more.1, more.2) := by
  conv => lhs; unfold scheduled
  rw [if_neg hopen, if_neg hleft]

end Row

/-! ### Probing is going along the row -/

section Walk

variable {timeout : Option τ} {deadline : τ}

/-- What probing has sent from a scene on is what going along some targets on a port sends, and
whatever follows them in the row is gone along as probing has left it. -/
def Walks (timeout : Option τ) (deadline : τ) (port : Int) (targets : List Target)
    (scene : Scene τ σ)
    (outcome : Outcome (PartnerEvent τ) (Scene τ σ) (Failure τ) (Option Endpoint))
    (found : Option Endpoint) : Prop :=
  ∃ requests : List (Request τ),
    outcome.events.filter PartnerEvent.isPost = requests.map Request.event ∧
    ∀ answered rest, port ∉ answered →
      scheduled timeout deadline scene.network answered (targets ++ rest) =
        let more := scheduled timeout deadline outcome.state.network
          (if found.isSome then port :: answered else answered) rest
        (requests ++ more.1, more.2)

/-- Where the deadline has come, nothing is sent for any targets. -/
theorem walks_of_spent {scene : Scene τ σ} (hspent : deadline ≤ scene.network.now) (port : Int)
    (targets : List Target) :
    Walks timeout deadline port targets scene ⟨.ok none, scene, []⟩ none := by
  refine ⟨[], rfl, fun answered rest _ => ?_⟩
  dsimp only
  rw [scheduled_of_spent hspent, scheduled_of_spent hspent]
  rfl

section Step

variable {limit : τ} {target : Target} {targets : List Target} {scene : Scene τ σ}
  {outcome : Outcome (PartnerEvent τ) (Scene τ σ) (Failure τ) (Option Endpoint)}

/-- A request that is confirmed is the last one to its port. -/
theorem walks_of_confirmed (hleft : ¬ deadline ≤ scene.network.now)
    (hconfirmed : (Request.upTo limit deadline scene.network target).IsConfirmed)
    (hposts : outcome.events.filter PartnerEvent.isPost =
      [(Request.upTo limit deadline scene.network target).event])
    (hnetwork : outcome.state.network = (Request.upTo limit deadline scene.network target).behind)
    (htargets : ∀ other ∈ targets, other.address.port = target.address.port)
    (endpoint : Endpoint) :
    Walks (some limit) deadline target.address.port (target :: targets) scene outcome
      (some endpoint) := by
  refine ⟨[_], hposts, fun answered rest hopen => ?_⟩
  have hpassed : ∀ other ∈ targets, other.address.port ∈ target.address.port :: answered :=
    fun other hother => htargets other hother ▸ List.mem_cons_self
  rw [List.cons_append, scheduled_cons hopen hleft]
  dsimp only
  rw [if_pos hconfirmed, scheduled_of_answered hpassed, hnetwork]
  rfl

/-- Behind a request that is not confirmed, probing goes along the other targets. -/
theorem Walks.cons {later : Scene τ σ} {found : Option Endpoint}
    (hwalks : Walks (some limit) deadline target.address.port targets later outcome found)
    (hleft : ¬ deadline ≤ scene.network.now)
    (hmissed : ¬ (Request.upTo limit deadline scene.network target).IsConfirmed)
    (hnetwork : later.network = (Request.upTo limit deadline scene.network target).behind)
    {events : List (PartnerEvent τ)} (hposts : events.filter PartnerEvent.isPost =
      [(Request.upTo limit deadline scene.network target).event]) :
    Walks (some limit) deadline target.address.port (target :: targets) scene
      ⟨outcome.result, outcome.state, events ++ outcome.events⟩ found := by
  obtain ⟨requests, hrequests, hrow⟩ := hwalks
  refine ⟨Request.upTo limit deadline scene.network target :: requests, ?_,
    fun answered rest hopen => ?_⟩
  · dsimp only
    rw [List.filter_append, hposts, hrequests]
    rfl
  · rw [List.cons_append, scheduled_cons hopen hleft]
    dsimp only
    rw [if_neg hmissed, ← hnetwork, hrow answered rest hopen]
    rfl

end Step

/-- Where there is time left, probing the paths of an address comes to a result only if its first
path can be probed. -/
theorem probePaths_returns_cons {address : SocketAddress} {path : Value} {rest : List Value}
    {scene : Scene τ σ} (hleft : ¬ deadline - scene.network.now ≤ 0) {found : Option Endpoint}
    (hfound : (probePaths timeout deadline address (path :: rest) scene).result = .ok found) :
    ∃ text endpoint limit, path.text? = some text ∧
      Endpoint.ofSocket address.ip address.port text = .ok endpoint ∧ timeout = some limit := by
  unfold probePaths at hfound
  rw [now_bind_apply, if_neg hleft] at hfound
  obtain ⟨text, htext, hfound⟩ := result_bind hfound
  obtain ⟨endpoint, hendpoint, hfound⟩ := result_bind hfound
  cases timeout with
  | none => cases hfound
  | some limit =>
      refine ⟨text, endpoint, limit, ?_, requireEndpoint_result hendpoint, rfl⟩
      unfold requirePath at htext
      cases hpath : path.text? with
      | none =>
          rw [hpath] at htext
          cases htext
      | some other =>
          rw [hpath] at htext
          rw [Except.ok.inj htext]

theorem address_of_mem_targetsOn {paths : List Value} {address : SocketAddress} {target : Target}
    (htarget : target ∈ targetsOn paths address) : target.address = address := by
  obtain ⟨path, -, rfl⟩ := List.mem_map.mp htarget
  rfl

theorem probePaths_walks (hexact : ∀ now, deadline - now ≤ 0 ↔ deadline ≤ now)
    {address : SocketAddress} {paths : List Value} {scene : Scene τ σ} {found : Option Endpoint}
    (hfound : (probePaths timeout deadline address paths scene).result = .ok found) :
    Walks timeout deadline address.port (targetsOn paths address) scene
      (probePaths timeout deadline address paths scene) found := by
  induction paths generalizing scene with
  | nil =>
      obtain rfl := Except.ok.inj hfound
      exact ⟨[], rfl, fun _ _ _ => rfl⟩
  | cons path rest ih =>
      by_cases hspent : deadline - scene.network.now ≤ 0
      · rw [probePaths_of_spent hspent] at hfound ⊢
        obtain rfl := Except.ok.inj hfound
        exact walks_of_spent ((hexact _).mp hspent) _ _
      · have hleft : ¬ deadline ≤ scene.network.now := fun htime => hspent ((hexact _).mpr htime)
        obtain ⟨text, endpoint, limit, htext, hendpoint, rfl⟩ :=
          probePaths_returns_cons hspent hfound
        let request := Request.upTo limit deadline scene.network ⟨address, text⟩
        have hurl : endpoint.url = request.target.url := Endpoint.ofUrl_eq_ok hendpoint
        have htargets : targetsOn (path :: rest) address =
            ⟨address, text⟩ :: targetsOn rest address := by
          rw [targetsOn, List.filterMap_cons_some htext, List.map_cons]
          rfl
        have hnetwork : (servesGraphQL endpoint (some request.limit) scene).state.network =
            request.behind := by
          rw [servesGraphQL_state, post_apply, hurl]
          rfl
        have hposts : (servesGraphQL endpoint (some request.limit) scene).events.filter
            PartnerEvent.isPost = [request.event] := by
          rw [servesGraphQL_filter_isPost, hurl]
          rfl
        have hconfirms : (servesGraphQL endpoint (some request.limit) scene).result = .ok true ↔
            request.IsConfirmed := by
          rw [servesGraphQL_result_iff, hurl]
          rfl
        rw [probePaths_cons htext hendpoint, if_neg hspent] at hfound ⊢
        -- Either way one request is sent. If it is confirmed, the rest of the row is passed over.
        obtain ⟨served, hserved, hrest⟩ := result_bind hfound
        rw [bind_apply, hserved, htargets]
        cases served with
        | true =>
            obtain rfl := Except.ok.inj hrest
            refine walks_of_confirmed hleft (hconfirms.mp hserved) ?_ hnetwork ?_ endpoint
            · exact (congrArg (List.filter PartnerEvent.isPost) (List.append_nil _)).trans hposts
            · exact fun other hother =>
                congrArg SocketAddress.port (address_of_mem_targetsOn hother)
        | false =>
            have hmissed : ¬ request.IsConfirmed := by
              intro hconfirmed
              cases hserved.symm.trans (hconfirms.mpr hconfirmed)
            exact (ih hrest).cons hleft hmissed hnetwork hposts

/-- Probing the addresses of a port is going along the targets on them. -/
theorem probePort_walks {plan : ProbePlan τ}
    (hexact : ∀ now, deadline - now ≤ 0 ↔ deadline ≤ now) {addresses : List SocketAddress}
    {port : Int} (hport : ∀ address ∈ addresses, address.port = port) {scene : Scene τ σ}
    {found : Option Endpoint}
    (hfound : (probePort plan deadline addresses scene).result = .ok found) :
    Walks plan.timeout deadline port (addresses.flatMap (targetsOn plan.paths)) scene
      (probePort plan deadline addresses scene) found := by
  induction addresses generalizing scene with
  | nil =>
      obtain rfl := Except.ok.inj hfound
      exact ⟨[], rfl, fun _ _ _ => rfl⟩
  | cons address rest ih =>
      obtain ⟨rfl, hrest⟩ := List.forall_mem_cons.mp hport
      rw [probePort_cons] at hfound ⊢
      obtain ⟨found?, hhere, hlater⟩ := result_bind hfound
      obtain ⟨requests, hrequests, hrow⟩ := probePaths_walks hexact hhere
      rw [bind_apply, hhere, List.flatMap_cons]
      cases found? with
      | some endpoint =>
          obtain rfl := Except.ok.inj hlater
          refine ⟨requests, ?_, fun answered more hopen => ?_⟩
          · dsimp only
            rw [List.filter_append, hrequests]
            exact List.append_nil _
          · have hpassed : ∀ other ∈ rest.flatMap (targetsOn plan.paths),
                other.address.port ∈ address.port :: answered := by
              intro other hother
              obtain ⟨address', haddress', htarget⟩ := List.mem_flatMap.mp hother
              rw [address_of_mem_targetsOn htarget, hrest address' haddress']
              exact List.mem_cons_self
            rw [List.append_assoc, hrow answered _ hopen]
            simp only [Option.isSome_some, if_true]
            rw [scheduled_of_answered hpassed]
            rfl
      | none =>
          obtain ⟨others, hothers, hrow'⟩ := ih hrest hlater
          refine ⟨requests ++ others, ?_, fun answered more hopen => ?_⟩
          · dsimp only
            rw [List.filter_append, hrequests, hothers, List.map_append]
          · rw [List.append_assoc, hrow answered _ hopen]
            simp only [Option.isSome_none, Bool.false_eq_true, if_false]
            rw [hrow' answered more hopen]
            simp only [List.append_assoc]

/-- Sweeping over ports is going along the targets on them. -/
theorem sweepPorts_scheduled {sweep : Sweep τ}
    (hexact : ∀ now, sweep.deadline - now ≤ 0 ↔ sweep.deadline ≤ now) {ports : List Int}
    (hdistinct : ports.Nodup) {answered : List Int} (hopen : ∀ port ∈ ports, port ∉ answered)
    (cursor : Slot σ Nat) (probed : Nat) {scene : Scene τ σ} {found : List Endpoint}
    (hfound : (sweepPorts sweep cursor probed ports scene).result = .ok found) :
    let row := ports.flatMap fun port =>
      (addressesOn sweep.addresses port).flatMap (targetsOn sweep.plan.paths)
    let schedule := scheduled sweep.plan.timeout sweep.deadline scene.network answered row
    (sweepPorts sweep cursor probed ports scene).events.filter PartnerEvent.isPost =
        schedule.1.map Request.event ∧
      (sweepPorts sweep cursor probed ports scene).state.network = schedule.2 := by
  induction ports generalizing probed answered scene found with
  | nil => exact ⟨rfl, rfl⟩
  | cons port rest ih =>
      obtain ⟨hnew, hrest⟩ := List.nodup_cons.mp hdistinct
      obtain ⟨hport, hports⟩ := List.forall_mem_cons.mp hopen
      have hreturns := hfound
      unfold sweepPorts at hreturns
      obtain ⟨found?, hhere, -⟩ := result_bind hreturns
      have hvisit : (sweep.visit port scene).outcome.result = .ok found? := hhere
      have hwalks : Walks sweep.plan.timeout sweep.deadline port
          ((addressesOn sweep.addresses port).flatMap (targetsOn sweep.plan.paths)) scene
          (sweep.visit port scene).outcome found? :=
        probePort_walks hexact (fun address haddress => (mem_addressesOn.mp haddress).2) hhere
      obtain ⟨requests, hrequests, hrow⟩ := hwalks
      rw [sweepPorts_of_found hvisit] at hfound ⊢
      rw [List.flatMap_cons]
      dsimp only at hfound ⊢
      rw [hrow answered _ hport]
      dsimp only
      -- Where the loop is cut, the deadline has come, and so the row sends nothing more either.
      split at hfound
      · next hcut =>
          rw [if_pos hcut, scheduled_of_spent hcut.1]
          refine ⟨?_, rfl⟩
          dsimp only
          rw [List.filter_append, List.append_nil, ← hrequests]
          exact List.append_nil _
      · next hcut =>
          have hopen' : ∀ other ∈ rest,
              other ∉ if found?.isSome then port :: answered else answered := by
            intro other hother
            have hdiffers : other ≠ port := fun heq => hnew (heq ▸ hother)
            split
            · exact List.not_mem_cons_of_ne_of_not_mem hdiffers (hports other hother)
            · exact hports other hother
          obtain ⟨more, hmore, -⟩ := exists_of_map hfound
          obtain ⟨hposts, hnetwork⟩ := ih hrest hopen' (probed + 1) hmore
          rw [if_neg hcut]
          refine ⟨?_, hnetwork⟩
          dsimp only
          rw [List.filter_append, List.map_append, ← hrequests, hposts]

end Walk

end Schedule

/-! ### Whole scans -/

/-- Where no request takes longer than it waits, going along a row does not pass a deadline that lay
ahead. -/
theorem scheduled_meets_deadline {timeout : Option Rat} {deadline : Rat} {network : Network Rat}
    {answered : List Int} {targets : List Target} (hahead : network.now ≤ deadline)
    (hlimits : ∀ request ∈ (scheduled timeout deadline network answered targets).1,
      request.behind.now ≤ request.network.now + request.limit) :
    (scheduled timeout deadline network answered targets).2.now ≤ deadline := by
  induction targets generalizing network answered with
  | nil => exact hahead
  | cons target rest ih =>
      unfold scheduled at hlimits ⊢
      split
      · next hpassed =>
          rw [if_pos hpassed] at hlimits
          exact ih hahead hlimits
      · next hopen =>
          rw [if_neg hopen] at hlimits
          split
          · exact hahead
          · next hleft =>
              rw [if_neg hleft] at hlimits
              cases timeout with
              | none => exact hahead
              | some limit =>
                  obtain ⟨hlimit, hmore⟩ := List.forall_mem_cons.mp hlimits
                  refine ih (hlimit.trans ?_) hmore
                  dsimp only [Request.upTo]
                  rw [shorter_eq_min]
                  have hleast : min limit (deadline - network.now) ≤ deadline - network.now :=
                    min_le_right _ _
                  linarith

namespace SocketScanner

theorem run_follows [Moment τ] {scanner : SocketScanner τ σ} {scan : Scan τ σ}
    (hexact : ∀ now, scanner.deadline scan - now ≤ 0 ↔ scanner.deadline scan ≤ now)
    {found : List Endpoint} (hreturns : (scanner.run scan).result = .ok found) :
    (scanner.run scan).events.filter PartnerEvent.isPost =
        (scanner.schedule scan).1.map Request.event ∧
      (scanner.run scan).state.network = (scanner.schedule scan).2 := by
  obtain ⟨unsorted, hending, -⟩ := ending_of_returns hreturns
  rw [ending_eq_sweepPorts] at hending
  have hopen : ∀ port ∈ rotate scan.ports (scanner.sweep scan).start, port ∉ ([] : List Int) :=
    fun _ _ => List.not_mem_nil
  have hsweep := sweepPorts_scheduled hexact (nodup_round scan _) hopen scanner.cursor 0 hending
  rw [run_of_open (openAddresses_of_returns hreturns), ending_eq_sweepPorts]
  refine ⟨?_, hsweep.2⟩
  dsimp only
  rw [List.filter_append, openAddresses_filter_isPost, List.nil_append]
  exact hsweep.1

/-- A scan that comes to a result has sent the requests of its schedule, and time is as late as it
is behind the last of them. Here a deadline leaves nothing where it has come, as it does unless both
are infinite. Where time is exact and no request takes longer than it waits, the scan is over by its
deadline. -/
theorem run_follows_schedule [Moment τ] [Moment.Faithful τ] (scanner : SocketScanner τ σ)
    (scan : Scan τ σ)
    (hdeadline : ∀ now, scanner.deadline scan ≤ now → scanner.deadline scan - now ≤ 0)
    {found : List Endpoint} (hreturns : (scanner.run scan).result = .ok found) :
    (scanner.run scan).events.filter PartnerEvent.isPost =
        (scanner.schedule scan).1.map Request.event ∧
      (scanner.run scan).state.network = (scanner.schedule scan).2 ∧
      ∀ (other : SocketScanner Rat σ) (scan : Scan Rat σ) (found : List Endpoint),
        (other.run scan).result = .ok found → 0 ≤ other.budget →
        (∀ request ∈ (other.schedule scan).1,
          request.behind.now ≤ request.network.now + request.limit) →
        (other.run scan).state.network.now ≤ other.deadline scan := by
  have hexact : ∀ now, scanner.deadline scan - now ≤ 0 ↔ scanner.deadline scan ≤ now :=
    fun now => ⟨Moment.Faithful.le_of_sub_le_zero, hdeadline now⟩
  obtain ⟨hposts, hnetwork⟩ := run_follows hexact hreturns
  refine ⟨hposts, hnetwork, fun other scan found hreturns hbudget hlimits => ?_⟩
  rw [(run_follows (fun now => sub_nonpos) hreturns).2]
  exact scheduled_meets_deadline (le_add_of_nonneg_right hbudget) hlimits

end SocketScanner

def thoroughScanner : SocketScanner Rat Nat :=
  { hastyScanner with paths := [.text "/", .text "/graphql"], budget := 3 / 4 }

/-- Behind the first port there is an endpoint that takes its time, and behind the other one nothing
ever answers. -/
def stallingScan : Scan Rat Nat where
  known := []
  scene := ⟨⟨0,
    [⟨some "127.0.0.1", 4000, listenStatus, none, none⟩,
      ⟨some "127.0.0.1", 10000, listenStatus, none, none⟩],
    false, [], false,
    [("http://127.0.0.1:4000/", [⟨200, "OK", graphAnswer.body, 3 / 8, false, none, none, none⟩]),
      ("http://127.0.0.1:10000/", [⟨200, "OK", "", 0, true, none, none, none⟩])]⟩, 0⟩

theorem stallingScan_addresses :
    stallingScan.addresses = [⟨"127.0.0.1", 4000⟩, ⟨"127.0.0.1", 10000⟩] := by
  decide +kernel

theorem stallingScan_ports : stallingScan.ports = [4000, 10000] := by
  rw [Scan.ports, stallingScan_addresses]
  exact portsOf_eq (by decide) fun _ => by simp

theorem stallingScan_targets : thoroughScanner.targets stallingScan =
    [⟨⟨"127.0.0.1", 4000⟩, "/"⟩, ⟨⟨"127.0.0.1", 4000⟩, "/graphql"⟩,
      ⟨⟨"127.0.0.1", 10000⟩, "/"⟩, ⟨⟨"127.0.0.1", 10000⟩, "/graphql"⟩] := by
  rw [SocketScanner.targets, stallingScan_ports, stallingScan_addresses]
  decide +kernel

theorem stallingScan_returns :
    ∃ found, (thoroughScanner.run stallingScan).result = .ok found := by
  have hports : stallingScan.ports ≠ [] := stallingScan_ports ▸ List.cons_ne_nil _ _
  have hsound : ∀ visit ∈ thoroughScanner.visits stallingScan, visit.failure?.isNone = true := by
    rw [SocketScanner.visits, SocketScanner.sweep, stallingScan_ports]
    decide +kernel
  exact ⟨_, SocketScanner.run_result hports fun visit hvisit =>
    Option.isNone_iff_eq_none.mp (hsound visit hvisit)⟩

/-- The endpoint answers the first request, so its port is left. The other port gets what is left of
the budget for one request, and none for a second one. -/
theorem run_follows_schedule_stallingScan :
    (thoroughScanner.run stallingScan).events.filter PartnerEvent.isPost =
        [.post "http://127.0.0.1:4000/" probeBody (some (1 / 2)),
          .post "http://127.0.0.1:10000/" probeBody (some (3 / 8))] ∧
      (thoroughScanner.run stallingScan).state.network.now ≤ 3 / 4 := by
  obtain ⟨found, hreturns⟩ := stallingScan_returns
  obtain ⟨hposts, -, htime⟩ := thoroughScanner.run_follows_schedule stallingScan
    (fun _ => sub_nonpos.mpr) hreturns
  have hrequests : (thoroughScanner.schedule stallingScan).1.map
      (fun request => (request.target.url, request.limit)) =
        [("http://127.0.0.1:4000/", 1 / 2), ("http://127.0.0.1:10000/", 3 / 8)] := by
    rw [SocketScanner.schedule, stallingScan_targets]
    decide +kernel
  have hlimits : ∀ request ∈ (thoroughScanner.schedule stallingScan).1,
      request.behind.now ≤ request.network.now + request.limit := by
    rw [SocketScanner.schedule, stallingScan_targets]
    decide +kernel
  constructor
  · have hevents := congrArg
      (List.map fun (url, limit) => PartnerEvent.post url probeBody (some limit)) hrequests
    rw [List.map_map] at hevents
    exact hposts.trans hevents
  · refine (htime thoroughScanner stallingScan found hreturns ?_ hlimits).trans ?_
    · decide +kernel
    · decide +kernel

end SubgraphLauncher
