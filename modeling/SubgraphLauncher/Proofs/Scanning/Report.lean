import SubgraphLauncher.Proofs.Scanning.Literals
import SubgraphLauncher.Proofs.Scanning.Rounds
import SubgraphLauncher.Proofs.Scanning.Trail

/-!
# What a scan reports

A scan reports endpoints that its own probes have confirmed, in the order of their URLs and at most
one for a port. Each is on a socket that was listening when the scan began and of no origin that was
known, and the probe that has confirmed it is the last one that the scan has sent to its port.
-/

namespace SubgraphLauncher

open SubgraphLauncher.Action

variable {τ σ : Type} [Moment τ]

/-- The addresses that a scan hears to be listening; none if the host does not tell. -/
def Scan.heard (scan : Scan τ σ) : List SocketAddress :=
  match (listening scan.scene).result with
  | .ok heard => heard
  | .error _ => []

omit [Moment τ] in
/-- Addresses are only left out. -/
theorem uncovered_sublist {origins : List Endpoint} {heard left : List SocketAddress}
    {scene : Scene τ σ} (hleft : (uncovered origins heard scene).result = .ok left) :
    left.Sublist heard := by
  induction heard generalizing scene left with
  | nil =>
      obtain rfl := Except.ok.inj hleft
      exact .slnil
  | cons address rest ih =>
      unfold uncovered at hleft
      obtain ⟨endpoint, -, hleft⟩ := result_bind hleft
      obtain ⟨origin, -, hleft⟩ := result_bind hleft
      obtain ⟨more, hmore, hleft⟩ := result_bind hleft
      have hlater := ih hmore
      obtain rfl := Except.ok.inj hleft
      split
      · exact hlater.cons address
      · exact hlater.cons_cons address

theorem Scan.addresses_sublist (scan : Scan τ σ) : scan.addresses.Sublist scan.heard := by
  unfold Scan.addresses
  cases hopen : (openAddresses scan.known scan.scene).result with
  | error failure => exact List.nil_sublist _
  | ok addresses =>
      unfold openAddresses at hopen
      obtain ⟨origins, -, hopen⟩ := result_bind hopen
      obtain ⟨heard, hheard, hopen⟩ := result_bind hopen
      rw [originsOf_state] at hheard
      rw [Scan.heard, hheard]
      exact uncovered_sublist hopen

/-! ### In the order of their URLs -/

theorem Endpoint.pairwise_sort (endpoints : List Endpoint) :
    (Endpoint.sort endpoints).Pairwise fun a b => a.url ≤ b.url := by
  have hsorted : (Endpoint.sort endpoints).Pairwise fun a b => !decide (b.url < a.url) := by
    refine List.pairwise_mergeSort (fun a b c hab hbc => ?_) (fun a b => ?_) _
    · simp only [Bool.not_eq_true', decide_eq_false_iff_not, String.not_lt] at hab hbc ⊢
      exact String.le_trans hab hbc
    · simp only [Bool.or_eq_true, Bool.not_eq_true', decide_eq_false_iff_not, String.not_lt]
      exact String.le_total a.url b.url
  refine hsorted.imp fun hab => ?_
  rwa [Bool.not_eq_true', decide_eq_false_iff_not, String.not_lt] at hab

/-- Endpoints with different URLs are sorted strictly. -/
theorem Endpoint.pairwise_sort_of_distinct {endpoints : List Endpoint}
    (hdistinct : endpoints.Pairwise fun a b => a.url ≠ b.url) :
    (Endpoint.sort endpoints).Pairwise fun a b => a.url < b.url := by
  have hperm : (Endpoint.sort endpoints).Perm endpoints := List.mergeSort_perm _ _
  have hother : (Endpoint.sort endpoints).Pairwise fun a b => a.url ≠ b.url :=
    (hperm.pairwise_iff fun hab => hab.symm).mpr hdistinct
  refine ((Endpoint.pairwise_sort endpoints).and hother).imp fun hab => ?_
  exact String.not_le.mp fun hba => hab.2 (String.le_antisymm hab.1 hba)

omit [Moment τ] in
/-- On addresses that are numbers, an endpoint is on one port only. -/
theorem Endpoint.IsOn.port_eq {endpoint : Endpoint} {address other : SocketAddress}
    (hon : endpoint.IsOn address) (hother : endpoint.IsOn other) (haddress : address.IsLiteral)
    (hliteral : other.IsLiteral) : address.port = other.port := by
  obtain ⟨path, hpath⟩ := hon
  obtain ⟨path', hpath'⟩ := hother
  have hsame : socketUrl address.ip address.port path = socketUrl other.ip other.port path' := by
    rw [← ofUrl_eq_ok hpath, ← ofUrl_eq_ok hpath']
  exact (eq_of_socketUrl haddress hliteral hsame).2

namespace SocketScanner

variable {scanner : SocketScanner τ σ} {scan : Scan τ σ}

/-! ### One endpoint for a port -/

theorem nodup_ports (scan : Scan τ σ) : scan.ports.Nodup := scan.pairwise_ports.imp Int.ne_of_lt

theorem nodup_round (scan : Scan τ σ) (start : Nat) : (rotate scan.ports start).Nodup :=
  (rotate_perm _ _).nodup_iff.mpr (nodup_ports scan)

theorem nodup_visited : (scanner.visited scan).Nodup :=
  (nodup_round scan _).sublist (Sweep.visits_ports _ _ _).sublist

/-- On addresses that are numbers, what one visit finds is on its port only. -/
theorem port_eq_of_isOn (hliteral : ∀ address ∈ scan.heard, address.IsLiteral)
    {visit : Visit τ σ} (hvisit : visit ∈ scanner.visits scan) {endpoint : Endpoint}
    (hfound : visit.outcome.result = .ok (some endpoint)) {address : SocketAddress}
    (haddress : address ∈ scan.heard) (hon : endpoint.IsOn address) :
    address.port = visit.port := by
  obtain ⟨here, hhere, hport, hplaced⟩ := exists_isOn_of_found hvisit hfound
  rw [← hport]
  exact hon.port_eq hplaced (hliteral address haddress)
    (hliteral here (scan.addresses_sublist.subset hhere))

/-- Visits that find endpoints on one port are the same. -/
theorem visit_eq_of_port (hliteral : ∀ address ∈ scan.heard, address.IsLiteral)
    {visit other : Visit τ σ} (hvisit : visit ∈ scanner.visits scan)
    (hother : other ∈ scanner.visits scan) {endpoint second : Endpoint}
    (hfound : visit.outcome.result = .ok (some endpoint))
    (hsecond : other.outcome.result = .ok (some second)) {address address' : SocketAddress}
    (haddress : address ∈ scan.heard) (haddress' : address' ∈ scan.heard)
    (hon : endpoint.IsOn address) (hon' : second.IsOn address')
    (hport : address.port = address'.port) : visit = other := by
  refine List.inj_on_of_nodup_map nodup_visited hvisit hother ?_
  rw [← port_eq_of_isOn hliteral hvisit hfound haddress hon, hport,
    port_eq_of_isOn hliteral hother hsecond haddress' hon']

/-- What the visits find has different URLs. -/
theorem pairwise_found (hliteral : ∀ address ∈ scan.heard, address.IsLiteral) :
    ((scanner.visits scan).flatMap (·.found)).Pairwise fun a b => a.url ≠ b.url := by
  have hdistinct : (scanner.visits scan).Pairwise fun visit other => visit.port ≠ other.port :=
    List.pairwise_map.mp nodup_visited
  refine List.pairwise_flatMap.mpr ⟨fun visit _ => ?_, ?_⟩
  · unfold Visit.found
    split
    · next found? _ => cases found? <;> simp
    · exact .nil
  · refine hdistinct.imp_of_mem fun {visit other} hvisit hother hports a ha b hb hsame => ?_
    rw [Visit.mem_found] at ha hb
    obtain ⟨address, haddress, hport, hon⟩ := exists_isOn_of_found hvisit ha
    obtain rfl := Endpoint.eq_of_url hsame
    have hheard := scan.addresses_sublist.subset haddress
    rw [← hport, port_eq_of_isOn hliteral hother hb hheard hon] at hports
    exact hports rfl

/-! ### The probe behind each endpoint -/

theorem run_network (hports : scan.ports ≠ []) :
    (scanner.run scan).state.network = (lastScene scan.scene (scanner.visits scan)).network := by
  rw [run_apply hports]
  unfold ending Sweep.ending
  dsimp only
  split
  · rfl
  · split <;> rfl

/-- The requests of a scan are the probes of a trail, which settle what its visits find. -/
theorem exists_trail {found : List Endpoint} (hreturns : (scanner.run scan).result = .ok found) :
    ∃ probes last, Trail scan.scene probes last ∧
      (scanner.run scan).state.network = last.network ∧
      (scanner.run scan).events.filter PartnerEvent.isPost = probes.map Probe.event ∧
      (∀ probe ∈ probes, probe.IsAmong scan.heard scanner.paths) ∧
      ∀ endpoint ∈ found, ∃ port, SettledBy endpoint port probes := by
  by_cases hports : scan.ports = []
  · obtain ⟨rfl, hstate, hevents⟩ := run_of_no_ports hports hreturns
    refine ⟨[], scan.scene, rfl, congrArg Scene.network hstate, ?_, by simp, by simp⟩
    rw [hevents, openAddresses_filter_isPost]
    rfl
  · obtain ⟨probes, htrail, hposts, hamong, hsettled⟩ :=
      (scanner.sweep scan).visits_send (nodup_round scan (scanner.sweep scan).start) scan.scene
    refine ⟨probes, _, htrail, run_network hports, (run_filter_isPost hports).trans hposts,
      fun probe hprobe => ?_, fun endpoint hmem => ?_⟩
    · exact (hamong probe hprobe).1.mono scan.addresses_sublist.subset (List.Subset.refl _)
    · obtain ⟨visit, hvisit, hfound⟩ := (mem_of_returns hreturns).mp hmem
      exact ⟨visit.port, hsettled visit hvisit endpoint hfound⟩

/-- A scan that comes to a result reports at most one endpoint for each port, in the strict order of
their URLs, and none of an origin that is known. Its requests are probes of sockets that listened
when it began, and every endpoint that it reports has been confirmed by the last of the probes to
its port. -/
theorem reports_confirmed (scanner : SocketScanner τ σ) (scan : Scan τ σ)
    (hliteral : ∀ address ∈ scan.heard, address.IsLiteral) {found : List Endpoint}
    (hreturns : (scanner.run scan).result = .ok found) :
    found.Pairwise (fun a b => a.url < b.url) ∧
      (∀ endpoint ∈ found, ∀ other ∈ found, ∀ address ∈ scan.heard, ∀ address' ∈ scan.heard,
        endpoint.IsOn address → other.IsOn address' → address.port = address'.port →
          endpoint = other) ∧
      (∀ endpoint ∈ found, endpoint.IsFresh scan.known) ∧
      ∃ probes last, Trail scan.scene probes last ∧
        (scanner.run scan).state.network = last.network ∧
        (scanner.run scan).events.filter PartnerEvent.isPost = probes.map Probe.event ∧
        (∀ probe ∈ probes, probe.IsAmong scan.heard scanner.paths) ∧
        ∀ endpoint ∈ found, ∃ port, SettledBy endpoint port probes := by
  have hfresh : ∀ endpoint ∈ found, endpoint.IsFresh scan.known :=
    (scanSockets_shows scanner.plan scanner.cursor scan.known scan.scene).2 found hreturns
  refine ⟨?_, ?_, hfresh, exists_trail hreturns⟩
  · obtain ⟨unsorted, hending, rfl⟩ := ending_of_returns hreturns
    rw [(Sweep.ending_of_ok hending).1]
    exact Endpoint.pairwise_sort_of_distinct (pairwise_found hliteral)
  · intro endpoint hendpoint other hother address haddress address' haddress' hon hon' hport
    obtain ⟨visit, hvisit, hfound⟩ := (mem_of_returns hreturns).mp hendpoint
    obtain ⟨visit', hvisit', hfound'⟩ := (mem_of_returns hreturns).mp hother
    obtain rfl := visit_eq_of_port hliteral hvisit hvisit' hfound hfound' haddress haddress' hon
      hon' hport
    rw [hfound] at hfound'
    exact Option.some.inj (Except.ok.inj hfound')

end SocketScanner

def graphAnswer : Answer Rat :=
  ⟨200, "OK", "\x7b\"data\":\x7b\"__typename\":\"Query\"\x7d\x7d", 0, false, none, none, none⟩

/-- The port with the greater number has the smaller URL. -/
def twofoldScan : Scan Rat Nat where
  known := []
  scene := ⟨⟨0,
    [⟨some "127.0.0.1", 4000, listenStatus, none, none⟩,
      ⟨some "127.0.0.1", 10000, listenStatus, none, none⟩],
    false, [], false,
    [("http://127.0.0.1:4000/", [graphAnswer]), ("http://127.0.0.1:10000/", [graphAnswer])]⟩, 0⟩

theorem twofoldScan_isLiteral : ∀ address ∈ twofoldScan.heard, address.IsLiteral := by
  have hheard : twofoldScan.heard = [⟨"127.0.0.1", 4000⟩, ⟨"127.0.0.1", 10000⟩] := by
    decide +kernel
  rw [hheard]
  unfold SocketAddress.IsLiteral
  decide +kernel

theorem twofoldScan_ports : twofoldScan.ports = [4000, 10000] := by
  have haddresses : twofoldScan.addresses = [⟨"127.0.0.1", 4000⟩, ⟨"127.0.0.1", 10000⟩] := by
    decide +kernel
  rw [Scan.ports, haddresses]
  exact portsOf_eq (by decide) fun _ => by simp

theorem twofoldScan_visits :
    (∀ visit ∈ hastyScanner.visits twofoldScan, visit.failure?.isNone = true) ∧
      ((hastyScanner.visits twofoldScan).flatMap (·.found)).map (·.url) =
        ["http://127.0.0.1:4000/", "http://127.0.0.1:10000/"] := by
  rw [SocketScanner.visits, SocketScanner.sweep, twofoldScan_ports]
  decide +kernel

theorem twofoldScan_returns :
    ∃ found, (hastyScanner.run twofoldScan).result = .ok found ∧
      (found.map (·.url)).Perm ["http://127.0.0.1:10000/", "http://127.0.0.1:4000/"] := by
  have hports : twofoldScan.ports ≠ [] := twofoldScan_ports ▸ List.cons_ne_nil _ _
  obtain ⟨hsound, hurls⟩ := twofoldScan_visits
  refine ⟨_, SocketScanner.run_result hports fun visit hvisit => ?_, ?_⟩
  · exact Option.isNone_iff_eq_none.mp (hsound visit hvisit)
  · refine ((List.mergeSort_perm _ _).map _).trans ?_
    rw [hurls]
    exact .swap _ _ _

/-- Both endpoints are reported, and each has been confirmed by a probe of this scan. -/
theorem reports_confirmed_twofoldScan :
    (∀ address ∈ twofoldScan.heard, address.IsLiteral) ∧
      ∃ found, (hastyScanner.run twofoldScan).result = .ok found ∧
        found.map (·.url) = ["http://127.0.0.1:10000/", "http://127.0.0.1:4000/"] ∧
        ∃ probes last, Trail twofoldScan.scene probes last ∧
          ∀ endpoint ∈ found, ∃ port, SettledBy endpoint port probes := by
  obtain ⟨found, hreturns, hperm⟩ := twofoldScan_returns
  obtain ⟨hsorted, -, -, probes, last, htrail, -, -, -, hsettled⟩ :=
    hastyScanner.reports_confirmed twofoldScan twofoldScan_isLiteral hreturns
  refine ⟨twofoldScan_isLiteral, found, hreturns, ?_, probes, last, htrail, hsettled⟩
  refine hperm.eq_of_pairwise (fun a b _ _ hab hba => ?_) (List.pairwise_map.mpr hsorted) ?_
  · exact absurd hba (String.lt_asymm hab)
  · decide

end SubgraphLauncher
