import SubgraphLauncher.Proofs.Scanning.Scans

/-!
# Scan after scan

Scans that follow each other have nothing in common but the cursor. While the ports that they may
probe stay the same, their visits put together are one walk round and round the ports, wherever the
budget cuts a scan short (`visits_go_round`).

The cursor is a place, though, and not a port. When ports have come or gone before the next scan,
the same place is that of another port, and the walk goes on behind the port visited last only if
there are, round and round, as many ports up to it as before (`resumes_iff`).
-/

namespace SubgraphLauncher

variable {τ σ : Type} [Moment τ] {scanner : SocketScanner τ σ}

namespace SocketScanner

/-- The cursor of the second scan lies where the first one has left it. -/
def Precedes (scanner : SocketScanner τ σ) (first second : Scan τ σ) : Prop :=
  scanner.place second = scanner.cursor.get (scanner.run first).state.desk

/-! ### The same ports -/

/-- The visits of scans of the same ports go on from each other. -/
theorem flatMap_visited {ports : List Int} (hports : ports ≠ []) {scans : List (Scan τ σ)}
    (hrow : scans.IsChain scanner.Precedes) (hfixed : ∀ scan ∈ scans, scan.ports = ports)
    (hreturns : ∀ scan ∈ scans, ∃ found, (scanner.run scan).result = .ok found) {start : Nat}
    (hstart : ∀ scan ∈ scans.head?, scanner.place scan ≡ start [MOD ports.length]) :
    scans.flatMap scanner.visited =
      portsFrom ports start (scans.map fun scan => (scanner.visits scan).length).sum := by
  induction scans generalizing start with
  | nil => rfl
  | cons scan rest ih =>
      obtain ⟨rfl, hfixed'⟩ := List.forall_mem_cons.mp hfixed
      obtain ⟨⟨found, hfound⟩, hreturns'⟩ := List.forall_mem_cons.mp hreturns
      obtain ⟨hnext, hrow'⟩ := List.isChain_cons.mp hrow
      have hplace : scanner.place scan ≡ start [MOD scan.ports.length] := hstart scan rfl
      have hmoved : ∀ next ∈ rest.head?,
          scanner.place next ≡ start + (scanner.visits scan).length [MOD scan.ports.length] := by
        intro next hmem
        rw [hnext next hmem]
        exact (next_place_mod hports hfound).trans (hplace.add_right _)
      have hhere : portsFrom scan.ports (scanner.place scan) (scanner.visits scan).length =
          portsFrom scan.ports start (scanner.visits scan).length := by
        rw [← portsFrom_mod, hplace, portsFrom_mod]
      rw [List.flatMap_cons, visited_eq hports, hhere, ih hrow' hfixed' hreturns' hmoved,
        portsFrom_append, List.map_cons, List.sum_cons]

/-- From some place on, the visits of scans of the same ports are a walk. -/
theorem exists_walk {ports : List Int} (hports : ports ≠ []) {scans : List (Scan τ σ)}
    (hrow : scans.IsChain scanner.Precedes) (hfixed : ∀ scan ∈ scans, scan.ports = ports)
    (hreturns : ∀ scan ∈ scans, ∃ found, (scanner.run scan).result = .ok found) :
    ∃ start, scans.flatMap scanner.visited =
      portsFrom ports start (scans.map fun scan => (scanner.visits scan).length).sum := by
  cases scans with
  | nil => exact ⟨0, rfl⟩
  | cons scan rest =>
      refine ⟨scanner.place scan, flatMap_visited hports hrow hfixed hreturns fun _ hhead => ?_⟩
      cases hhead
      rfl

/-- As many scans as there are ports visit all of them, since each visits one at least. -/
theorem exists_visit {ports : List Int} (hports : ports ≠ []) {scans : List (Scan τ σ)}
    (hrow : scans.IsChain scanner.Precedes) (hfixed : ∀ scan ∈ scans, scan.ports = ports)
    (hreturns : ∀ scan ∈ scans, ∃ found, (scanner.run scan).result = .ok found)
    (henough : ports.length ≤ scans.length) {port : Int} (hport : port ∈ ports) :
    ∃ scan ∈ scans, ∃ visit ∈ scanner.visits scan, visit.port = port := by
  obtain ⟨start, hwalk⟩ := exists_walk hports hrow hfixed hreturns
  have hvisits : scans.length ≤ (scans.map fun scan => (scanner.visits scan).length).sum := by
    have hone : ∀ count ∈ scans.map fun scan => (scanner.visits scan).length, 1 ≤ count := by
      intro count hcount
      obtain ⟨scan, hscan, rfl⟩ := List.mem_map.mp hcount
      exact List.length_pos_iff.mpr (visits_ne_nil (hfixed scan hscan ▸ hports))
    have hsum := List.length_le_sum_of_one_le _ hone
    rwa [List.length_map] at hsum
  have hmem : port ∈ scans.flatMap scanner.visited := by
    rw [hwalk]
    exact mem_portsFrom_of_length_le start (henough.trans hvisits) hport
  obtain ⟨scan, hscan, hvisited⟩ := List.mem_flatMap.mp hmem
  exact ⟨scan, hscan, List.mem_map.mp hvisited⟩

/-- Scans of the same ports visit them round and round, in which every port is followed by the next
one, so no port is visited more than once more often than another. A visit of a scan that has time
left at its beginning probes at least the preferred address of the port. -/
theorem visits_go_round [Moment.Faithful τ] (scanner : SocketScanner τ σ)
    (hcomplete : scanner.plan.IsComplete) {ports : List Int} (hports : ports ≠ [])
    {scans : List (Scan τ σ)} (hrow : scans.IsChain scanner.Precedes)
    (hfixed : ∀ scan ∈ scans, scan.ports = ports)
    (hhandled : ∀ scan ∈ scans, scan.scene.IsHandled) :
    let walk := scans.flatMap scanner.visited
    (∀ scan ∈ scans, (∃ found, (scanner.run scan).result = .ok found) ∧
      scanner.visits scan ≠ [] ∧
      (scanner.run scan).events.filter PartnerEvent.isPost =
        (scanner.visits scan).flatMap (·.outcome.events.filter PartnerEvent.isPost)) ∧
    (∀ port ∈ walk, port ∈ ports) ∧
    walk.IsChain (fun port next => portAfter ports port = some next) ∧
    (∀ port ∈ ports, ∀ other ∈ ports, walk.count port ≤ walk.count other + 1) ∧
    (scanner.paths ≠ [] → ∀ scan ∈ scans,
      scan.scene.network.now < scan.scene.network.now + scanner.budget →
      ∀ visit ∈ scanner.visits scan, ∃ address ∈ scan.addresses, address.port = visit.port ∧
        (∀ other ∈ scan.addresses, other.port = visit.port → preferred address other) ∧
        address.ProbedIn visit.outcome.events) := by
  intro walk
  have hreturns : ∀ scan ∈ scans, ∃ found, (scanner.run scan).result = .ok found := by
    intro scan hscan
    exact run_returns hcomplete (hfixed scan hscan ▸ hports) (hhandled scan hscan)
  have hscans : ∀ scan ∈ scans, (∃ found, (scanner.run scan).result = .ok found) ∧
      scanner.visits scan ≠ [] ∧
      (scanner.run scan).events.filter PartnerEvent.isPost =
        (scanner.visits scan).flatMap (·.outcome.events.filter PartnerEvent.isPost) := by
    intro scan hscan
    have hsome : scan.ports ≠ [] := hfixed scan hscan ▸ hports
    exact ⟨hreturns scan hscan, visits_ne_nil hsome, run_filter_isPost hsome⟩
  refine ⟨hscans, ?_⟩
  rcases scans with _ | ⟨scan, rest⟩
  · simp [walk]
  · have hsorted : ports.Pairwise (· < ·) :=
      hfixed scan List.mem_cons_self ▸ scan.pairwise_ports
    obtain ⟨start, hwalk⟩ : ∃ start, walk = portsFrom ports start _ :=
      exists_walk hports hrow hfixed hreturns
    rw [hwalk]
    refine ⟨fun port hport => mem_portsFrom hports hport, isChain_portsFrom hsorted hports _ _,
      fun port hport other hother => count_portsFrom_le hsorted hport hother _ _, ?_⟩
    exact fun hpaths scan _ hbudget => visit_probes_preferred hcomplete hpaths hbudget

end SocketScanner

/-- One request may take up the whole budget. -/
def hastyScanner : SocketScanner Rat Nat where
  timeout := some (1 / 2)
  paths := [.text "/"]
  budget := 1 / 2
  cursor := ⟨id, fun place _ => place⟩
  stays _ _ := rfl

/-- Of three sockets the first one goes away, and nothing behind them answers. -/
def fadingNetwork (now : Rat) : Network Rat where
  now := now
  sockets :=
    [⟨some "127.0.0.1", 4001, listenStatus, none, some (1 / 2)⟩,
      ⟨some "127.0.0.1", 4002, listenStatus, none, none⟩,
      ⟨some "127.0.0.1", 4003, listenStatus, none, none⟩]
  listingDenied := false
  processes := []
  processesDenied := false
  services := ["http://127.0.0.1:4001/", "http://127.0.0.1:4002/", "http://127.0.0.1:4003/"].map
    fun url => (url, [⟨200, "OK", "", 0, true, none, none, none⟩])

def fadingScan (now : Rat) (place : Nat) : Scan Rat Nat := ⟨[], ⟨fadingNetwork now, place⟩⟩

theorem hastyScanner_isComplete : hastyScanner.plan.IsComplete where
  timeout := ⟨1 / 2, rfl⟩
  paths := by
    intro path hpath
    obtain rfl := List.mem_singleton.mp hpath
    exact ⟨"/", rfl⟩

theorem fadingScan_isHandled (now : Rat) (place : Nat) :
    (fadingScan now place).scene.IsHandled := by
  refine Scene.isHandled_of_silent fun service hservice answer hanswer => ?_
  obtain ⟨url, -, rfl⟩ := List.mem_map.mp hservice
  obtain rfl := List.mem_singleton.mp hanswer
  rfl

theorem fadingScan_returns {now : Rat} {place : Nat} (hports : (fadingScan now place).ports ≠ []) :
    ∃ found, (hastyScanner.run (fadingScan now place)).result = .ok found :=
  SocketScanner.run_returns hastyScanner_isComplete hports (fadingScan_isHandled now place)

/-- A scan that has visited one of several ports moves the cursor behind it. -/
theorem fadingScan_precedes {now : Rat} {place : Nat} {port : Int}
    (hmore : 1 < (fadingScan now place).ports.length)
    (hvisited : hastyScanner.visited (fadingScan now place) = [port]) (later : Rat) :
    hastyScanner.Precedes (fadingScan now place)
      (fadingScan later (place % (fadingScan now place).ports.length + 1)) := by
  have hports : (fadingScan now place).ports ≠ [] :=
    List.length_pos_iff.mp (Nat.zero_lt_of_lt hmore)
  have hvisits : (hastyScanner.visits (fadingScan now place)).length = 1 := by
    rw [← SocketScanner.length_visited, hvisited, List.length_singleton]
  obtain ⟨found, hfound⟩ := fadingScan_returns hports
  rw [SocketScanner.Precedes, SocketScanner.next_place hports hfound, hvisits, if_pos hmore]
  rfl

theorem fadingScan_ports_late :
    ∀ scan ∈ [fadingScan (1 / 2) 1, fadingScan 1 2], scan.ports = [4002, 4003] := by
  have haddresses : ∀ scan ∈ [fadingScan (1 / 2) 1, fadingScan 1 2],
      scan.addresses = [⟨"127.0.0.1", 4002⟩, ⟨"127.0.0.1", 4003⟩] := by decide +kernel
  intro scan hscan
  rw [Scan.ports, haddresses scan hscan]
  exact portsOf_eq (by decide) fun _ => Iff.rfl

theorem fadingScan_visited_late : hastyScanner.visited (fadingScan (1 / 2) 1) = [4003] := by
  rw [SocketScanner.visited, SocketScanner.visits, SocketScanner.sweep,
    fadingScan_ports_late _ List.mem_cons_self]
  decide +kernel

/-- Of two ports, each scan visits one. -/
theorem visits_go_round_fadingScan :
    hastyScanner.plan.IsComplete ∧
      [fadingScan (1 / 2) 1, fadingScan 1 2].IsChain hastyScanner.Precedes ∧
      (∀ scan ∈ [fadingScan (1 / 2) 1, fadingScan 1 2],
        scan.ports = [4002, 4003] ∧ scan.scene.IsHandled) ∧
      (∀ port ∈ [4002, 4003], ∀ other ∈ [4002, 4003],
        ([fadingScan (1 / 2) 1, fadingScan 1 2].flatMap hastyScanner.visited).count port ≤
          ([fadingScan (1 / 2) 1, fadingScan 1 2].flatMap hastyScanner.visited).count other + 1) ∧
      ∀ scan ∈ [fadingScan (1 / 2) 1, fadingScan 1 2], ∀ visit ∈ hastyScanner.visits scan,
        ∃ address ∈ scan.addresses, address.port = visit.port ∧
          (∀ other ∈ scan.addresses, other.port = visit.port → preferred address other) ∧
          address.ProbedIn visit.outcome.events := by
  have hprecedes : hastyScanner.Precedes (fadingScan (1 / 2) 1) (fadingScan 1 2) := by
    have hports := fadingScan_ports_late _ List.mem_cons_self
    have hnext := fadingScan_precedes (hports ▸ by decide) fadingScan_visited_late 1
    rwa [hports] at hnext
  have hrow : [fadingScan (1 / 2) 1, fadingScan 1 2].IsChain hastyScanner.Precedes :=
    List.isChain_pair.mpr hprecedes
  have hhandled : ∀ scan ∈ [fadingScan (1 / 2) 1, fadingScan 1 2], scan.scene.IsHandled := by
    simp only [List.forall_mem_cons]
    exact ⟨fadingScan_isHandled _ _, fadingScan_isHandled _ _, List.forall_mem_nil _⟩
  obtain ⟨-, -, -, hbalance, hprobes⟩ := hastyScanner.visits_go_round hastyScanner_isComplete
    (List.cons_ne_nil _ _) hrow fadingScan_ports_late hhandled
  refine ⟨hastyScanner_isComplete, hrow, ?_, hbalance, fun scan hscan => ?_⟩
  · exact fun scan hscan => ⟨fadingScan_ports_late scan hscan, hhandled scan hscan⟩
  · exact hprobes (List.cons_ne_nil _ _) scan hscan (lt_add_of_pos_right _ one_half_pos)

namespace SocketScanner

/-! ### Other ports -/

/-- The scan has come to a result, but with ports left behind the one that it has visited last. -/
structure StoppedAfter (scanner : SocketScanner τ σ) (scan : Scan τ σ) (port : Int) : Prop where
  returns : ∃ found, (scanner.run scan).result = .ok found
  left : (scanner.visits scan).length < scan.ports.length
  last : (scanner.visited scan).getLast? = some port

theorem head?_visited {scan : Scan τ σ} (hports : scan.ports ≠ []) :
    (scanner.visited scan).head? = some (portAt scan.ports (scanner.place scan)) := by
  have hsome : scanner.visits scan ≠ [] := visits_ne_nil hports
  obtain ⟨more, hmore⟩ := Nat.exists_eq_add_one_of_ne_zero (mt List.length_eq_zero_iff.mp hsome)
  rw [visited_eq hports, hmore, head?_portsFrom]

/-- The next port after the one visited last stands at the place behind it. -/
theorem StoppedAfter.portAfter {scan : Scan τ σ} {port : Int}
    (hstopped : scanner.StoppedAfter scan port) :
    portAfter scan.ports port = some (portAt scan.ports
      (scanner.place scan % scan.ports.length + (scanner.visits scan).length)) := by
  have hports : scan.ports ≠ [] := List.length_pos_iff.mp (Nat.zero_lt_of_lt hstopped.left)
  have hsome : scanner.visits scan ≠ [] := visits_ne_nil hports
  obtain ⟨more, hmore⟩ := Nat.exists_eq_add_one_of_ne_zero (mt List.length_eq_zero_iff.mp hsome)
  have hlast := hstopped.last
  rw [visited_eq hports, hmore, getLast?_portsFrom] at hlast
  rw [← Option.some.inj hlast, portAfter_portAt scan.pairwise_ports hports, hmore, ← portAt_mod,
    ← portAt_mod (_ % _ + _), Nat.mod_add_mod, Nat.add_assoc]

/-- A scan behind one that was cut short begins with the port at the place where that one has
stopped. This is the next port after the one visited last exactly if the place is, round and round,
the number of ports that are not greater; so it is while the ports stay the same. -/
theorem resumes_iff (scanner : SocketScanner τ σ) {first second : Scan τ σ} {port : Int}
    (hstopped : scanner.StoppedAfter first port) (hrow : scanner.Precedes first second)
    (hports : second.ports ≠ []) :
    let place := scanner.place first % first.ports.length + (scanner.visits first).length
    (scanner.run second).events.filter PartnerEvent.isPost =
        (scanner.visits second).flatMap (·.outcome.events.filter PartnerEvent.isPost) ∧
      (scanner.visited second).head? = some (portAt second.ports place) ∧
      ((scanner.visited second).head? = portAfter second.ports port ↔
        place ≡ second.ports.countP (fun other => decide (other ≤ port))
          [MOD second.ports.length]) ∧
      (second.ports = first.ports →
        (scanner.visited second).head? = portAfter second.ports port) := by
  intro place
  have hfirst : first.ports ≠ [] := List.length_pos_iff.mp (Nat.zero_lt_of_lt hstopped.left)
  obtain ⟨found, hfound⟩ := hstopped.returns
  have hhead : (scanner.visited second).head? = some (portAt second.ports place) := by
    rw [head?_visited hports, hrow, next_place hfirst hfound, if_pos hstopped.left]
  refine ⟨run_filter_isPost hports, hhead, ?_, fun hsame => ?_⟩
  · rw [hhead, portAfter_eq second.pairwise_ports hports, Option.some_inj]
    exact portAt_eq_iff second.pairwise_ports hports _ _
  · rw [hhead, hsame, hstopped.portAfter]

end SocketScanner

theorem fadingScan_ports_early : (fadingScan 0 0).ports = [4001, 4002, 4003] := by
  have haddresses : (fadingScan 0 0).addresses =
      [⟨"127.0.0.1", 4001⟩, ⟨"127.0.0.1", 4002⟩, ⟨"127.0.0.1", 4003⟩] := by decide +kernel
  rw [Scan.ports, haddresses]
  exact portsOf_eq (by decide) fun _ => Iff.rfl

theorem fadingScan_stoppedAfter :
    hastyScanner.StoppedAfter (fadingScan 0 0) 4001 ∧
      hastyScanner.Precedes (fadingScan 0 0) (fadingScan (1 / 2) 1) := by
  have hvisited : hastyScanner.visited (fadingScan 0 0) = [4001] := by
    rw [SocketScanner.visited, SocketScanner.visits, SocketScanner.sweep, fadingScan_ports_early]
    decide +kernel
  have hmore : 1 < (fadingScan 0 0).ports.length := by
    rw [fadingScan_ports_early]
    decide
  have hvisits : (hastyScanner.visits (fadingScan 0 0)).length = 1 := by
    rw [← SocketScanner.length_visited, hvisited, List.length_singleton]
  have hnext := fadingScan_precedes hmore hvisited (1 / 2)
  rw [fadingScan_ports_early] at hnext
  refine ⟨⟨fadingScan_returns ?_, hvisits ▸ hmore, by rw [hvisited]; rfl⟩, hnext⟩
  exact List.length_pos_iff.mp (Nat.zero_lt_of_lt hmore)

/-- With 4001 gone, the second place is that of 4003. -/
theorem resumes_iff_fadingScan :
    hastyScanner.StoppedAfter (fadingScan 0 0) 4001 ∧
      hastyScanner.Precedes (fadingScan 0 0) (fadingScan (1 / 2) 1) ∧
      (fadingScan (1 / 2) 1).ports ≠ [] ∧
      (hastyScanner.visited (fadingScan (1 / 2) 1)).head? =
        some (portAt (fadingScan (1 / 2) 1).ports
          (hastyScanner.place (fadingScan 0 0) % (fadingScan 0 0).ports.length +
            (hastyScanner.visits (fadingScan 0 0)).length)) := by
  obtain ⟨hstopped, hprecedes⟩ := fadingScan_stoppedAfter
  have hports : (fadingScan (1 / 2) 1).ports ≠ [] := by
    rw [fadingScan_ports_late _ List.mem_cons_self]
    exact List.cons_ne_nil _ _
  exact ⟨hstopped, hprecedes, hports, (hastyScanner.resumes_iff hstopped hprecedes hports).2.1⟩

/-- The scan after the one that has visited 4001 begins with 4003, though 4002 is next. -/
theorem resumes_behind_next_fadingScan :
    hastyScanner.StoppedAfter (fadingScan 0 0) 4001 ∧
      hastyScanner.Precedes (fadingScan 0 0) (fadingScan (1 / 2) 1) ∧
      (hastyScanner.visited (fadingScan (1 / 2) 1)).head? = some 4003 ∧
      portAfter (fadingScan (1 / 2) 1).ports 4001 = some 4002 := by
  obtain ⟨hstopped, hprecedes⟩ := fadingScan_stoppedAfter
  refine ⟨hstopped, hprecedes, ?_, ?_⟩
  · rw [fadingScan_visited_late]
    rfl
  · rw [fadingScan_ports_late _ List.mem_cons_self]
    decide

end SubgraphLauncher
