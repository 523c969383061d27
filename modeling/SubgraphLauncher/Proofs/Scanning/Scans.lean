import SubgraphLauncher.Proofs.Scanning.Sweep

/-!
# Scans by their visits

A scan finds out the addresses that no known endpoint covers and sweeps their ports, from the place
that the cursor tells. `SocketScanner.run_apply` says what it is in terms of its visits. Round and
round, the cursor moves on by the number of visits, whether the scan visits all ports or is cut
short: a scan begins at the place where the scan before has ended.
-/

namespace SubgraphLauncher

open SubgraphLauncher.Action

variable {τ σ : Type}

/-- Differences tell which of two moments is the later one. That is so without rounding, and of
doubles too, since they round no difference to zero. -/
class Moment.Faithful (τ : Type) [Moment τ] : Prop where
  not_le_of_lt {a b : τ} : a < b → ¬ b ≤ a
  le_of_sub_le_zero {a b : τ} : a - b ≤ 0 → a ≤ b

instance : Moment.Faithful Rat where
  not_le_of_lt := Rat.not_le.mpr
  le_of_sub_le_zero hsub := sub_nonpos.mp hsub

/-- A scanner of sockets with a budget, and with a cursor that stays where it is put. -/
structure SocketScanner (τ σ : Type) where
  timeout : Option τ
  paths : List Value
  budget : τ
  cursor : Slot σ Nat
  stays : ∀ place desk, cursor.get (cursor.put place desk) = place

def SocketScanner.plan (scanner : SocketScanner τ σ) : ProbePlan τ :=
  ⟨scanner.timeout, scanner.paths, some scanner.budget⟩

/-- The endpoints that are known to a scan, and the scene in which it begins. -/
structure Scan (τ σ : Type) where
  known : List Endpoint
  scene : Scene τ σ

section Scan

variable [Moment τ]

/-- The listening addresses that no known endpoint covers. -/
def openAddresses (known : List Endpoint) : PartnerAction τ σ (List SocketAddress) := do
  let origins ← originsOf known
  uncovered origins (← listening)

namespace Scan

/-- The addresses that a scan may probe; none if it fails to find out. -/
def addresses (scan : Scan τ σ) : List SocketAddress :=
  match (openAddresses scan.known scan.scene).result with
  | .ok addresses => addresses
  | .error _ => []

def ports (scan : Scan τ σ) : List Int := portsOf scan.addresses

theorem pairwise_ports (scan : Scan τ σ) : scan.ports.Pairwise (· < ·) :=
  pairwise_portsOf scan.addresses

theorem addresses_hasUrls (scan : Scan τ σ) :
    ∀ address ∈ scan.addresses, address.HasUrls := by
  have hshows : Shows (PartnerEvent.PostsTo fun _ => False)
      (fun addresses => ∀ address ∈ addresses, address.HasUrls)
      (openAddresses scan.known : PartnerAction τ σ (List SocketAddress)) := by
    unfold openAddresses
    refine (originsOf_shows scan.known).bind fun origins _ => listening_shows.seq fun heard => ?_
    refine (uncovered_shows origins heard).mono (fun _ hposts => hposts) fun left hleft => ?_
    exact fun address haddress => (hleft address haddress).hasUrls
  unfold addresses
  cases hresult : (openAddresses scan.known scan.scene).result with
  | error failure => exact List.forall_mem_nil _
  | ok left => exact (hshows scan.scene).2 left hresult

end Scan

theorem openAddresses_keeps {γ : Type} {view : Scene τ σ → γ} (known : List Endpoint) :
    Keeps view (openAddresses known : PartnerAction τ σ (List SocketAddress)) := by
  unfold openAddresses
  exact (originsOf_keeps known).bind fun _ => listening_keeps.bind fun _ => uncovered_keeps _ _

/-- Whether an event is a request. -/
def PartnerEvent.isPost : PartnerEvent τ → Bool
  | .post _ _ _ => true
  | _ => false

namespace SocketScanner

variable (scanner : SocketScanner τ σ) (scan : Scan τ σ)

def run : Outcome (PartnerEvent τ) (Scene τ σ) (Failure τ) (List Endpoint) :=
  scanSockets scanner.plan scanner.cursor scan.known scan.scene

def place : Nat := scanner.cursor.get scan.scene.desk

def sweep : Sweep τ :=
  ⟨scanner.plan, scanner.budget, scan.scene.network.now + scanner.budget, scan.addresses,
    scanner.place scan % scan.ports.length, scan.ports.length⟩

def visits : List (Visit τ σ) :=
  (scanner.sweep scan).visits scan.scene (rotate scan.ports (scanner.sweep scan).start)

def visited : List Int := (scanner.visits scan).map (·.port)

/-- How a scan ends whose ports are known. -/
def ending : Outcome (PartnerEvent τ) (Scene τ σ) (Failure τ) (List Endpoint) :=
  (scanner.sweep scan).ending scanner.cursor 0 scan.ports.length scan.scene (scanner.visits scan)

variable {scanner scan}

theorem scanSockets_eq (scanner : SocketScanner τ σ) (known : List Endpoint) :
    scanSockets scanner.plan scanner.cursor known =
      openAddresses known >>= fun addresses => do
        if (portsOf addresses).isEmpty then return []
        let start := (← PartnerAction.fetch scanner.cursor) % (portsOf addresses).length
        let deadline := (← PartnerAction.now) + scanner.budget
        let sweep : Sweep τ :=
          ⟨scanner.plan, scanner.budget, deadline, addresses, start, (portsOf addresses).length⟩
        return Endpoint.sort
          (← sweepPorts sweep scanner.cursor 0 (rotate (portsOf addresses) start)) := by
  unfold scanSockets openAddresses
  simp only [bind_assoc]
  rfl

theorem openAddresses_state (known : List Endpoint) (scene : Scene τ σ) :
    (openAddresses known scene).state = scene := by
  have hkeeps : Keeps id (openAddresses known : PartnerAction τ σ (List SocketAddress)) :=
    openAddresses_keeps known
  exact hkeeps scene

theorem ending_eq_sweepPorts :
    scanner.ending scan = sweepPorts (scanner.sweep scan) scanner.cursor 0
      (rotate scan.ports (scanner.sweep scan).start) scan.scene := by
  rw [sweepPorts_apply, (rotate_perm _ _).length_eq]
  rfl

/-- A scan that finds out the open addresses is the sweep over their ports. -/
theorem run_of_open {addresses : List SocketAddress}
    (hopen : (openAddresses scan.known scan.scene).result = .ok addresses) :
    scanner.run scan =
      ⟨(scanner.ending scan).result.map Endpoint.sort, (scanner.ending scan).state,
        (openAddresses scan.known scan.scene).events ++ (scanner.ending scan).events⟩ := by
  have haddresses : scan.addresses = addresses := by rw [Scan.addresses, hopen]
  have hstate := openAddresses_state scan.known scan.scene
  rw [ending_eq_sweepPorts, run, scanSockets_eq, bind_apply, hopen, hstate]
  dsimp only
  by_cases hnone : scan.ports = []
  · have hempty : (portsOf addresses).isEmpty = true := by
      rw [← haddresses]
      exact List.isEmpty_iff.mpr hnone
    have hround : rotate scan.ports (scanner.sweep scan).start = [] := by
      rw [rotate, hnone, List.drop_nil, List.take_nil, List.append_nil]
    rw [hempty, hround]
    have hsorted : Endpoint.sort [] = [] := List.mergeSort_nil
    simp only [if_true, sweepPorts, pure_apply, Except.map, hsorted]
  · have hsome : (portsOf addresses).isEmpty = false := by
      rw [← haddresses]
      exact List.isEmpty_eq_false_iff.mpr hnone
    rw [hsome]
    simp only [Bool.false_eq_true, if_false]
    rw [fetch_bind_apply, now_bind_apply, bind_pure_apply]
    dsimp only [sweep, Scan.ports, place]
    rw [haddresses]

/-- A scan that does not find out the open addresses ends there. -/
theorem run_of_closed {failure : Failure τ}
    (hclosed : (openAddresses scan.known scan.scene).result = .error failure) :
    scanner.run scan =
      ⟨.error failure, scan.scene, (openAddresses scan.known scan.scene).events⟩ := by
  rw [run, scanSockets_eq, bind_apply, hclosed, openAddresses_state]

theorem run_apply (hports : scan.ports ≠ []) :
    scanner.run scan =
      ⟨(scanner.ending scan).result.map Endpoint.sort, (scanner.ending scan).state,
        (openAddresses scan.known scan.scene).events ++ (scanner.ending scan).events⟩ := by
  cases hresult : (openAddresses scan.known scan.scene).result with
  | error failure =>
      refine absurd ?_ hports
      rw [Scan.ports, Scan.addresses, hresult]
      exact portsOf_nil
  | ok addresses => exact run_of_open hresult

/-- A scan that comes to a result has found out the open addresses. -/
theorem openAddresses_of_returns {found : List Endpoint}
    (hreturns : (scanner.run scan).result = .ok found) :
    (openAddresses scan.known scan.scene).result = .ok scan.addresses := by
  cases hopen : (openAddresses scan.known scan.scene).result with
  | error failure =>
      rw [run_of_closed hopen] at hreturns
      cases hreturns
  | ok addresses => rw [Scan.addresses, hopen]

theorem ending_of_returns {found : List Endpoint}
    (hreturns : (scanner.run scan).result = .ok found) :
    ∃ unsorted, (scanner.ending scan).result = .ok unsorted ∧ found = Endpoint.sort unsorted := by
  rw [run_of_open (openAddresses_of_returns hreturns)] at hreturns
  obtain ⟨unsorted, hending, hsorted⟩ := exists_of_map hreturns
  exact ⟨unsorted, hending, hsorted.symm⟩

/-- Without ports, a scan that comes to a result has nothing to probe and to find. -/
theorem run_of_no_ports (hports : scan.ports = []) {found : List Endpoint}
    (hreturns : (scanner.run scan).result = .ok found) :
    found = [] ∧ (scanner.run scan).state = scan.scene ∧
      (scanner.run scan).events = (openAddresses scan.known scan.scene).events := by
  have hopen := openAddresses_of_returns hreturns
  have hnone : scanner.visits scan = [] := by
    rw [visits, rotate, hports, List.drop_nil, List.take_nil, List.append_nil, Sweep.visits]
  have hending : scanner.ending scan = ⟨.ok [], scan.scene, []⟩ := by
    rw [ending, hnone, hports]
    rfl
  rw [run_of_open hopen, hending] at hreturns ⊢
  have hsorted : Endpoint.sort [] = [] := List.mergeSort_nil
  exact ⟨(Except.ok.inj hreturns).symm.trans hsorted, rfl, List.append_nil _⟩

/-- The cursor stays, or lies behind the last visit where ports are left. -/
theorem next_place (hports : scan.ports ≠ []) {found : List Endpoint}
    (hreturns : (scanner.run scan).result = .ok found) :
    scanner.cursor.get (scanner.run scan).state.desk =
      if (scanner.visits scan).length < scan.ports.length then
        scanner.place scan % scan.ports.length + (scanner.visits scan).length
      else scanner.place scan := by
  obtain ⟨unsorted, hending, -⟩ := ending_of_returns hreturns
  have hdesk : (lastScene scan.scene (scanner.visits scan)).desk = scan.scene.desk :=
    Scene.desk_eq_of_timeless Sweep.lastScene_timeless
  rw [run_apply hports, ending, (Sweep.ending_of_ok hending).2.2, hdesk]
  split
  · rw [scanner.stays, Nat.zero_add]
    rfl
  · rfl

theorem length_visited : (scanner.visited scan).length = (scanner.visits scan).length :=
  List.length_map _

theorem visit_port_mem : ∀ visit ∈ scanner.visits scan, visit.port ∈ scan.ports := by
  intro visit hvisit
  have hvisited : visit.port ∈ scanner.visited scan := List.mem_map_of_mem hvisit
  have hround := Sweep.visits_ports (scanner.sweep scan) scan.scene
    (rotate scan.ports (scanner.sweep scan).start)
  exact mem_rotate.mp (hround.subset hvisited)

theorem visit_outcome : ∀ visit ∈ scanner.visits scan,
    visit.outcome = probePort scanner.plan (scanner.sweep scan).deadline
      (addressesOn scan.addresses visit.port) visit.scene :=
  fun visit hvisit => congrArg Visit.outcome (Sweep.visits_timeless visit hvisit).1

theorem visits_ne_nil (hports : scan.ports ≠ []) : scanner.visits scan ≠ [] := by
  obtain ⟨port, hport⟩ := List.exists_mem_of_ne_nil _ hports
  exact Sweep.visits_ne_nil (List.ne_nil_of_mem (mem_rotate.mpr hport))

/-- One port is visited in every scan. -/
theorem visits_of_single {port : Int} (hport : scan.ports = [port]) :
    scanner.visits scan = [(scanner.sweep scan).visit port scan.scene] := by
  have hround : rotate scan.ports (scanner.sweep scan).start = [port] := by
    rw [sweep, hport, List.length_singleton, Nat.mod_one]
    rfl
  rw [visits, hround, Sweep.visits]
  split <;> rfl

theorem visited_front (hports : scan.ports ≠ []) :
    scanner.visited scan <+:
      portsFrom scan.ports (scanner.place scan % scan.ports.length) scan.ports.length := by
  have hstart := Nat.mod_lt (scanner.place scan) (List.length_pos_iff.mpr hports)
  rw [← rotate_eq_portsFrom hstart]
  exact Sweep.visits_ports _ _ _

theorem visits_length_le (hports : scan.ports ≠ []) :
    (scanner.visits scan).length ≤ scan.ports.length := by
  have hfront : scanner.visited scan <+: _ := visited_front hports
  have hle := hfront.length_le
  rwa [length_visited, length_portsFrom] at hle

/-- The visited ports stand at places in a row, from that of the cursor on. -/
theorem visited_eq (hports : scan.ports ≠ []) :
    scanner.visited scan =
      portsFrom scan.ports (scanner.place scan) (scanner.visits scan).length := by
  rw [← portsFrom_mod, ← length_visited]
  exact eq_portsFrom_of_prefix (visited_front hports)

/-- Round and round, the cursor moves on by the number of visits. -/
theorem next_place_mod (hports : scan.ports ≠ []) {found : List Endpoint}
    (hreturns : (scanner.run scan).result = .ok found) :
    scanner.cursor.get (scanner.run scan).state.desk ≡
      scanner.place scan + (scanner.visits scan).length [MOD scan.ports.length] := by
  rw [next_place hports hreturns]
  split
  · exact (Nat.mod_modEq _ _).add_right _
  · have hall : (scanner.visits scan).length = scan.ports.length := by
      have hle : (scanner.visits scan).length ≤ scan.ports.length := visits_length_le hports
      omega
    rw [hall]
    exact Nat.add_modEq_right.symm

/-! ### What a scan finds and posts -/

/-- Finding out the addresses posts to nothing. -/
theorem openAddresses_filter_isPost (known : List Endpoint) (scene : Scene τ σ) :
    (openAddresses known scene).events.filter PartnerEvent.isPost = [] := by
  have hshows : Shows (PartnerEvent.PostsTo fun _ => False) (fun _ => True)
      (openAddresses known : PartnerAction τ σ (List SocketAddress)) := by
    unfold openAddresses
    refine (originsOf_shows known).bind fun origins _ => listening_shows.seq fun heard => ?_
    exact (uncovered_shows origins heard).mono (fun _ hposts => hposts) fun _ _ => trivial
  refine List.filter_eq_nil_iff.mpr fun event hevent hpost => ?_
  have hnone := (hshows scene).1 event hevent
  cases event with
  | post url body timeout =>
      obtain ⟨-, -, hfalse⟩ := hnone
      exact hfalse
  | _ => cases hpost

/-- The requests of a scan are those of its visits. -/
theorem run_filter_isPost (hports : scan.ports ≠ []) :
    (scanner.run scan).events.filter PartnerEvent.isPost =
      (scanner.visits scan).flatMap (·.outcome.events.filter PartnerEvent.isPost) := by
  rw [run_apply hports]
  dsimp only
  rw [List.filter_append, openAddresses_filter_isPost, List.nil_append, ← List.filter_flatMap]
  unfold ending Sweep.ending
  dsimp only
  split
  · rfl
  · split
    · dsimp only
      rw [List.filter_append]
      exact List.append_nil _
    · rfl

/-- A scan whose visits come to results has found what they have found. -/
theorem run_result (hports : scan.ports ≠ [])
    (hsound : ∀ visit ∈ scanner.visits scan, visit.failure? = none) :
    (scanner.run scan).result =
      .ok (Endpoint.sort ((scanner.visits scan).flatMap (·.found))) := by
  rw [run_apply hports]
  dsimp only
  rw [ending, Sweep.ending, List.findSome?_eq_none_iff.mpr hsound]
  dsimp only
  split <;> rfl

/-- Where a scan comes to a result, so do its visits. -/
theorem visit_returns_of_run {found : List Endpoint}
    (hreturns : (scanner.run scan).result = .ok found) :
    ∀ visit ∈ scanner.visits scan, ∃ found, visit.outcome.result = .ok found := by
  obtain ⟨unsorted, hending, -⟩ := ending_of_returns hreturns
  intro visit hvisit
  exact Visit.exists_of_failure?_eq_none ((Sweep.ending_of_ok hending).2.1 visit hvisit)

/-- A scan reports what its visits have found. -/
theorem mem_of_returns {found : List Endpoint}
    (hreturns : (scanner.run scan).result = .ok found) {endpoint : Endpoint} :
    endpoint ∈ found ↔
      ∃ visit ∈ scanner.visits scan, visit.outcome.result = .ok (some endpoint) := by
  obtain ⟨unsorted, hending, rfl⟩ := ending_of_returns hreturns
  rw [Endpoint.sort, List.mem_mergeSort, (Sweep.ending_of_ok hending).1, List.mem_flatMap]
  simp only [Visit.mem_found]

/-- What a visit posts, the scan posts. -/
theorem probedIn_run (hports : scan.ports ≠ []) {visit : Visit τ σ}
    (hvisit : visit ∈ scanner.visits scan) {address : SocketAddress}
    (hprobed : address.ProbedIn visit.outcome.events) :
    address.ProbedIn (scanner.run scan).events := by
  obtain ⟨endpoint, timeout, hon, hpost⟩ := hprobed
  refine ⟨endpoint, timeout, hon, ?_⟩
  have hposts : .post endpoint.url probeBody timeout ∈
      (scanner.run scan).events.filter PartnerEvent.isPost := by
    rw [run_filter_isPost hports]
    exact List.mem_flatMap.mpr ⟨visit, hvisit, List.mem_filter.mpr ⟨hpost, rfl⟩⟩
  exact (List.mem_filter.mp hposts).1

/-- What a visit finds is an endpoint on its port. -/
theorem exists_isOn_of_found {visit : Visit τ σ} (hvisit : visit ∈ scanner.visits scan)
    {endpoint : Endpoint} (hfound : visit.outcome.result = .ok (some endpoint)) :
    ∃ address ∈ scan.addresses, address.port = visit.port ∧ endpoint.IsOn address := by
  let may : Endpoint → Prop := fun endpoint =>
    ∃ address ∈ scan.addresses, address.port = visit.port ∧ endpoint.IsOn address
  have hmay : ∀ address ∈ addressesOn scan.addresses visit.port,
      ∀ endpoint : Endpoint, endpoint.IsOn address → may endpoint := by
    intro address haddress endpoint hon
    obtain ⟨hmem, hport⟩ := mem_addressesOn.mp haddress
    exact ⟨address, hmem, hport, hon⟩
  have hshows : Shows (PartnerEvent.PostsTo may)
      (fun found => ∀ endpoint, found = some endpoint → may endpoint)
      (probePort scanner.plan (scanner.sweep scan).deadline
        (addressesOn scan.addresses visit.port) : PartnerAction τ σ (Option Endpoint)) :=
    probePort_shows _ _ hmay
  rw [visit_outcome visit hvisit] at hfound
  exact (hshows visit.scene).2 _ hfound endpoint rfl

/-! ### How a scan goes in time -/

/-- Where the network fails in ways that are handled, every visit comes to a result. -/
theorem visit_returns (hcomplete : scanner.plan.IsComplete) (hhandled : scan.scene.IsHandled) :
    ∀ visit ∈ scanner.visits scan, ∃ found, visit.outcome.result = .ok found := by
  intro visit hvisit
  obtain ⟨heq, htimeless⟩ := Sweep.visits_timeless visit hvisit
  rw [heq]
  refine probePort_returns hcomplete (fun address haddress => ?_) (hhandled.of_timeless htimeless)
  exact scan.addresses_hasUrls address (mem_addressesOn.mp haddress).1

/-- If its visits come to results, so does a scan. -/
theorem run_returns (hcomplete : scanner.plan.IsComplete) (hports : scan.ports ≠ [])
    (hhandled : scan.scene.IsHandled) : ∃ found, (scanner.run scan).result = .ok found := by
  refine ⟨_, run_result hports fun visit hvisit => ?_⟩
  obtain ⟨found, hfound⟩ := visit_returns hcomplete hhandled visit hvisit
  rw [Visit.failure?, hfound]

/-- The first visit begins with the scan, and the others begin only if there is time left. -/
theorem visit_begins_in_time [Moment.Faithful τ]
    (hbudget : scan.scene.network.now < scan.scene.network.now + scanner.budget) :
    ∀ visit ∈ scanner.visits scan,
      ¬ (scanner.sweep scan).deadline - visit.scene.network.now ≤ 0 := by
  have hall : ∀ visit ∈ scanner.visits scan,
      visit = (scanner.sweep scan).visit visit.port visit.scene ∧
        ¬ (scanner.sweep scan).deadline ≤ visit.scene.network.now := by
    refine Sweep.forall_visits (fun scene => ¬ (scanner.sweep scan).deadline ≤ scene.network.now)
      (Moment.Faithful.not_le_of_lt hbudget) fun port scene _ htime => ?_
    rw [Visit.leavesTime, Bool.and_eq_true, Bool.not_eq_true', decide_eq_false_iff_not] at htime
    exact htime.2
  intro visit hvisit hspent
  exact (hall visit hvisit).2 (Moment.Faithful.le_of_sub_le_zero hspent)

/-- In a scan with time left at its beginning, every visit probes the address that is preferred to
all others on its port. -/
theorem visit_probes_preferred [Moment.Faithful τ] (hcomplete : scanner.plan.IsComplete)
    (hpaths : scanner.paths ≠ [])
    (hbudget : scan.scene.network.now < scan.scene.network.now + scanner.budget) :
    ∀ visit ∈ scanner.visits scan, ∃ address ∈ scan.addresses, address.port = visit.port ∧
      (∀ other ∈ scan.addresses, other.port = visit.port → preferred address other) ∧
      address.ProbedIn visit.outcome.events := by
  intro visit hvisit
  have hleft := visit_begins_in_time hbudget visit hvisit
  obtain ⟨other, hother, hport⟩ := mem_portsOf.mp (visit_port_mem visit hvisit)
  have hsome : addressesOn scan.addresses visit.port ≠ [] :=
    List.ne_nil_of_mem (mem_addressesOn.mpr ⟨hother, hport⟩)
  obtain ⟨address, rest, hcons⟩ := List.exists_cons_of_ne_nil hsome
  have hsorted := pairwise_addressesOn scan.addresses visit.port
  obtain ⟨hmem, hon⟩ := mem_addressesOn.mp (hcons ▸ List.mem_cons_self)
  rw [hcons] at hsorted
  refine ⟨address, hmem, hon, fun other hother hport => ?_, ?_⟩
  · have hlisted : other ∈ address :: rest := hcons ▸ mem_addressesOn.mpr ⟨hother, hport⟩
    rcases List.mem_cons.mp hlisted with rfl | hrest
    · exact (preferred_total other other).elim id id
    · exact (List.pairwise_cons.mp hsorted).1 other hrest
  · rw [visit_outcome visit hvisit, hcons]
    exact probePort_probes_head hcomplete hpaths (scan.addresses_hasUrls address hmem) rest hleft

end SocketScanner

end Scan

end SubgraphLauncher
