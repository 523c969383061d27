import SubgraphLauncher.Proofs.Scanning.Rounds

/-!
# Which sockets stay hidden

While the addresses that scans may probe stay the same, no port is hidden: after as many scans as
there are ports, each of them has been visited. The addresses of one port, though, share a visit. A
visit begins with the preferred one, and it is over when the budget is spent; the next visit of the
port begins with the preferred one again. So one address can hide another on its port for good, and
`probed_unless_spent` says that nothing else can.
-/

namespace SubgraphLauncher

open SubgraphLauncher.Action

variable {τ σ : Type} [Moment τ] {scanner : SocketScanner τ σ} {scan : Scan τ σ}

/-- The URL of a request. -/
def PartnerEvent.postedUrl? : PartnerEvent τ → Option String
  | .post url _ _ => some url
  | _ => none

namespace SocketScanner

/-- The turn of an address does not come in a visit: the budget is spent on addresses before it. -/
def SpentBefore (scanner : SocketScanner τ σ) (scan : Scan τ σ) (visit : Visit τ σ)
    (address : SocketAddress) : Prop :=
  ∃ front back, addressesOn scan.addresses visit.port = front ++ address :: back ∧ front ≠ [] ∧
    visit.outcome = probePort scanner.plan (scanner.sweep scan).deadline front visit.scene ∧
    (scanner.sweep scan).deadline - visit.outcome.state.network.now ≤ 0

variable [Moment.Faithful τ]

/-- In a visit of its port that has a result, an address is probed, or an endpoint is found, or the
budget is spent on the addresses before it. -/
theorem visit_reaches (hcomplete : scanner.plan.IsComplete) (hpaths : scanner.paths ≠ [])
    (hbudget : scan.scene.network.now < scan.scene.network.now + scanner.budget)
    {visit : Visit τ σ} (hvisit : visit ∈ scanner.visits scan) {found : Option Endpoint}
    (hfound : visit.outcome.result = .ok found) {address : SocketAddress}
    (haddress : address ∈ scan.addresses) (hport : visit.port = address.port) :
    address.ProbedIn visit.outcome.events ∨ found.isSome ∨
      scanner.SpentBefore scan visit address := by
  have hlisted : address ∈ addressesOn scan.addresses visit.port :=
    mem_addressesOn.mpr ⟨haddress, hport.symm⟩
  obtain ⟨front, back, hsplit⟩ := List.append_of_mem hlisted
  have houtcome := visit_outcome visit hvisit
  rw [hsplit] at houtcome
  rw [houtcome] at hfound
  rcases probePort_reaches hcomplete hpaths (scan.addresses_hasUrls address haddress) front back
    hfound with hprobed | hsome | ⟨hspent, hsame⟩
  · exact .inl (houtcome ▸ hprobed)
  · exact .inr (.inl hsome)
  · refine .inr (.inr ⟨front, back, hsplit, ?_, houtcome.trans hsame, ?_⟩)
    · rintro rfl
      exact visit_begins_in_time hbudget visit hvisit hspent
    · rw [houtcome, hsame]
      exact hspent

/-- While the addresses stay the same, as many scans as there are ports visit all of them. Then an
address has been probed, or an endpoint on its port has been found, or in every visit of its port
the budget has been spent on addresses before it; if no other address on its port is preferred to
it, it has been probed. -/
theorem probed_unless_spent (scanner : SocketScanner τ σ) (hcomplete : scanner.plan.IsComplete)
    (hpaths : scanner.paths ≠ []) {addresses : List SocketAddress} {scans : List (Scan τ σ)}
    (hrow : scans.IsChain scanner.Precedes)
    (hfixed : ∀ scan ∈ scans, ∀ address, address ∈ scan.addresses ↔ address ∈ addresses)
    (hreturns : ∀ scan ∈ scans, ∃ found, (scanner.run scan).result = .ok found)
    (hbudget : ∀ scan ∈ scans,
      scan.scene.network.now < scan.scene.network.now + scanner.budget)
    (henough : (portsOf addresses).length ≤ scans.length) {address : SocketAddress}
    (haddress : address ∈ addresses) :
    (∃ scan ∈ scans, ∃ visit ∈ scanner.visits scan, visit.port = address.port) ∧
    ((∃ scan ∈ scans, address.ProbedIn (scanner.run scan).events) ∨
      (∃ scan ∈ scans, ∃ found, (scanner.run scan).result = .ok found ∧
        ∃ endpoint ∈ found, ∃ other, other.port = address.port ∧ endpoint.IsOn other) ∨
      ∀ scan ∈ scans, ∀ visit ∈ scanner.visits scan, visit.port = address.port →
        scanner.SpentBefore scan visit address) ∧
    ((∀ other ∈ addresses, other.port = address.port → preferred address other) →
      ∃ scan ∈ scans, address.ProbedIn (scanner.run scan).events) := by
  have hport : address.port ∈ portsOf addresses := mem_portsOf.mpr ⟨address, haddress, rfl⟩
  have hports : portsOf addresses ≠ [] := List.ne_nil_of_mem hport
  have hsame : ∀ scan ∈ scans, scan.ports = portsOf addresses :=
    fun scan hscan => portsOf_eq_of_mem_iff (hfixed scan hscan)
  have hsome : ∀ scan ∈ scans, scan.ports ≠ [] := fun scan hscan => hsame scan hscan ▸ hports
  have hvisited : ∃ scan ∈ scans, ∃ visit ∈ scanner.visits scan, visit.port = address.port :=
    exists_visit hports hrow hsame hreturns henough hport
  refine ⟨hvisited, ?_, fun hfirst => ?_⟩
  · by_cases hspent : ∀ scan ∈ scans, ∀ visit ∈ scanner.visits scan, visit.port = address.port →
        scanner.SpentBefore scan visit address
    · exact .inr (.inr hspent)
    · push Not at hspent
      obtain ⟨scan, hscan, visit, hvisit, hhere, hnot⟩ := hspent
      obtain ⟨found, hfound⟩ := hreturns scan hscan
      obtain ⟨found?, hfound?⟩ := visit_returns_of_run hfound visit hvisit
      rcases visit_reaches hcomplete hpaths (hbudget scan hscan) hvisit hfound?
        ((hfixed scan hscan address).mpr haddress) hhere with hprobed | hany | hspent
      · exact .inl ⟨scan, hscan, probedIn_run (hsome scan hscan) hvisit hprobed⟩
      · obtain ⟨endpoint, rfl⟩ := Option.isSome_iff_exists.mp hany
        obtain ⟨other, -, hon, hplaced⟩ := exists_isOn_of_found hvisit hfound?
        refine .inr (.inl ⟨scan, hscan, found, hfound, endpoint, ?_, other, ?_, hplaced⟩)
        · exact (mem_of_returns hfound).mpr ⟨visit, hvisit, hfound?⟩
        · exact hon.trans hhere
      · exact absurd hspent hnot
  · obtain ⟨scan, hscan, visit, hvisit, hhere⟩ := hvisited
    obtain ⟨first, hmem, hon, hbefore, hprobed⟩ :=
      visit_probes_preferred hcomplete hpaths (hbudget scan hscan) visit hvisit
    have hlisted := (hfixed scan hscan first).mp hmem
    obtain rfl : address = first :=
      eq_of_preferred (hhere.symm.trans hon.symm) (hfirst first hlisted (hon.trans hhere))
        (hbefore address ((hfixed scan hscan address).mpr haddress) hhere.symm)
    exact ⟨scan, hscan, probedIn_run (hsome scan hscan) hvisit hprobed⟩

end SocketScanner

/-- Two sockets on one port: nothing ever answers behind the preferred one, but an endpoint would
answer behind the other one. -/
def sharedScan (now : Rat) : Scan Rat Nat where
  known := []
  scene := ⟨⟨now,
    [⟨some "127.0.0.1", 4000, listenStatus, none, none⟩,
      ⟨some "192.168.0.2", 4000, listenStatus, none, none⟩],
    false, [], false,
    [("http://127.0.0.1:4000/", [⟨200, "OK", "", 0, true, none, none, none⟩]),
      ("http://192.168.0.2:4000/",
        [⟨200, "OK", "\x7b\"data\": \x7b\"__typename\": \"Query\"\x7d\x7d", 0, false, none, none,
          none⟩])]⟩, 0⟩

theorem sharedScan_addresses : ∀ scan ∈ [sharedScan 0, sharedScan (1 / 2)],
    scan.addresses = [⟨"127.0.0.1", 4000⟩, ⟨"192.168.0.2", 4000⟩] := by
  decide +kernel

theorem sharedScan_ports : ∀ scan ∈ [sharedScan 0, sharedScan (1 / 2)], scan.ports = [4000] := by
  intro scan hscan
  rw [Scan.ports, sharedScan_addresses scan hscan]
  exact portsOf_eq (by decide) fun _ => by simp

theorem sharedScan_visit : ∀ scan ∈ [sharedScan 0, sharedScan (1 / 2)],
    let outcome := ((hastyScanner.sweep scan).visit 4000 scan.scene).outcome
    outcome.result.toOption = some none ∧
      outcome.events.filterMap PartnerEvent.postedUrl? = ["http://127.0.0.1:4000/"] := by
  intro scan hscan
  have haddresses : addressesOn scan.addresses 4000 = scan.addresses := by
    rw [sharedScan_addresses scan hscan]
    exact addressesOn_eq_self (by decide) (by decide)
  rw [Sweep.visit]
  dsimp only [SocketScanner.sweep]
  rw [haddresses]
  clear haddresses
  revert scan
  decide +kernel

theorem sharedScan_returns : ∀ scan ∈ [sharedScan 0, sharedScan (1 / 2)],
    (hastyScanner.run scan).result = .ok [] := by
  intro scan hscan
  have hports := sharedScan_ports scan hscan
  have hvisits : hastyScanner.visits scan = [_] := SocketScanner.visits_of_single hports
  have hvisit := (sharedScan_visit scan hscan).1
  have hsound : ∀ visit ∈ hastyScanner.visits scan, visit.failure? = none ∧ visit.found = [] := by
    rw [hvisits]
    intro visit hmem
    obtain rfl := List.mem_singleton.mp hmem
    unfold Visit.failure? Visit.found
    cases hresult : ((hastyScanner.sweep scan).visit 4000 scan.scene).outcome.result with
    | error failure =>
        rw [hresult] at hvisit
        cases hvisit
    | ok found =>
        rw [hresult] at hvisit
        cases hvisit
        exact ⟨rfl, rfl⟩
  have hsome : scan.ports ≠ [] := hports ▸ List.cons_ne_nil _ _
  rw [SocketScanner.run_result hsome fun visit hmem => (hsound visit hmem).1,
    List.flatMap_eq_nil_iff.mpr fun visit hmem => (hsound visit hmem).2, Endpoint.sort,
    List.mergeSort_nil]

theorem sharedScan_precedes :
    [sharedScan 0, sharedScan (1 / 2)].IsChain hastyScanner.Precedes := by
  have hports := sharedScan_ports _ List.mem_cons_self
  have hvisits : hastyScanner.visits (sharedScan 0) = [_] := SocketScanner.visits_of_single hports
  rw [List.isChain_pair, SocketScanner.Precedes,
    SocketScanner.next_place (hports ▸ List.cons_ne_nil _ _)
      (sharedScan_returns _ List.mem_cons_self), hvisits, hports]
  rfl

/-- Each of two scans visits the port, and the budget is spent on the preferred address. -/
theorem probed_unless_spent_sharedScan :
    hastyScanner.plan.IsComplete ∧ hastyScanner.paths ≠ [] ∧
      [sharedScan 0, sharedScan (1 / 2)].IsChain hastyScanner.Precedes ∧
      (∀ scan ∈ [sharedScan 0, sharedScan (1 / 2)],
        scan.addresses = [⟨"127.0.0.1", 4000⟩, ⟨"192.168.0.2", 4000⟩] ∧
        (hastyScanner.run scan).result = .ok []) ∧
      (∃ scan ∈ [sharedScan 0, sharedScan (1 / 2)],
        ∃ visit ∈ hastyScanner.visits scan, visit.port = 4000) ∧
      ∃ scan ∈ [sharedScan 0, sharedScan (1 / 2)],
        SocketAddress.ProbedIn ⟨"127.0.0.1", 4000⟩ (hastyScanner.run scan).events := by
  have hfixed : ∀ scan ∈ [sharedScan 0, sharedScan (1 / 2)], ∀ address,
      address ∈ scan.addresses ↔ address ∈ [⟨"127.0.0.1", 4000⟩, ⟨"192.168.0.2", 4000⟩] := by
    intro scan hscan address
    rw [sharedScan_addresses scan hscan]
  have henough : (portsOf [⟨"127.0.0.1", 4000⟩, ⟨"192.168.0.2", 4000⟩]).length ≤ 2 := by
    have hports := sharedScan_ports _ List.mem_cons_self
    rw [Scan.ports, sharedScan_addresses _ List.mem_cons_self] at hports
    rw [hports]
    decide
  have hpaths : hastyScanner.paths ≠ [] := List.cons_ne_nil _ _
  obtain ⟨hvisited, -, hfirst⟩ := hastyScanner.probed_unless_spent hastyScanner_isComplete hpaths
    sharedScan_precedes hfixed (fun scan hscan => ⟨[], sharedScan_returns scan hscan⟩)
    (fun _ _ => lt_add_of_pos_right _ one_half_pos) henough List.mem_cons_self
  refine ⟨hastyScanner_isComplete, hpaths, sharedScan_precedes, fun scan hscan =>
    ⟨sharedScan_addresses scan hscan, sharedScan_returns scan hscan⟩, hvisited, hfirst ?_⟩
  decide

/-- The endpoint behind the other socket is never asked. -/
theorem hidden_sharedScan :
    (∀ scan ∈ [sharedScan 0, sharedScan (1 / 2)],
      scan.addresses = [⟨"127.0.0.1", 4000⟩, ⟨"192.168.0.2", 4000⟩]) ∧
    [sharedScan 0, sharedScan (1 / 2)].IsChain hastyScanner.Precedes ∧
    ∀ scan ∈ [sharedScan 0, sharedScan (1 / 2)], (hastyScanner.run scan).result = .ok [] ∧
      ¬ SocketAddress.ProbedIn ⟨"192.168.0.2", 4000⟩ (hastyScanner.run scan).events := by
  refine ⟨sharedScan_addresses, sharedScan_precedes, fun scan hscan =>
    ⟨sharedScan_returns scan hscan, ?_⟩⟩
  rintro ⟨endpoint, timeout, ⟨path, hpath⟩, hpost⟩
  have hports := sharedScan_ports scan hscan
  have hposts : .post endpoint.url probeBody timeout ∈
      (hastyScanner.run scan).events.filter PartnerEvent.isPost :=
    List.mem_filter.mpr ⟨hpost, rfl⟩
  rw [SocketScanner.run_filter_isPost (hports ▸ List.cons_ne_nil _ _),
    SocketScanner.visits_of_single hports, List.flatMap_singleton] at hposts
  have hurl : endpoint.url ∈ ["http://127.0.0.1:4000/"] := by
    rw [← (sharedScan_visit scan hscan).2]
    exact List.mem_filterMap.mpr ⟨_, (List.mem_filter.mp hposts).1, rfl⟩
  have hloopback : endpoint.url = Endpoint.socketUrl "127.0.0.1" 4000 "/" := by
    rw [List.mem_singleton.mp hurl]
    decide +kernel
  have hauthority := (Endpoint.parts_of_socketUrl (Endpoint.ofUrl_eq_ok hpath)).2
  rw [(Endpoint.parts_of_socketUrl hloopback).2] at hauthority
  exact absurd hauthority (by decide +kernel)

end SubgraphLauncher
