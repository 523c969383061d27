import Mathlib.Data.List.Perm.Basic
import SubgraphLauncher.Proofs.Scanning.Instant
import SubgraphLauncher.Proofs.Scanning.Listing
import SubgraphLauncher.Proofs.Scanning.Report

/-!
# Scans that miss nothing

Where requests take no time, the budget cuts no scan short: a scan goes through all ports, wherever
its cursor lies. It reports one endpoint for each port on which a server answers, the first one in
the order of preference of the addresses and, on one address, in the order of the paths. The scene
is left as it was, with the cursor in it.

What it takes for this is that failures are such as a scanner handles, and that there are URLs on
all addresses that are heard. Anything else ends a scan with a failure.
-/

namespace SubgraphLauncher

open SubgraphLauncher.Action

variable {τ σ : Type} [Moment τ]

/-! ### The desk does not matter -/

/-- The scan, begun with another desk. -/
def Scan.onDesk (scan : Scan τ σ) (desk : σ) : Scan τ σ :=
  { scan with scene := { scan.scene with desk := desk } }

theorem listening_result (network : Network τ) (desk other : σ) :
    (listening ⟨network, desk⟩).result = (listening ⟨network, other⟩).result := by
  simp only [listening, PartnerAction.network, PartnerAction.note, bind_apply, current_apply,
    pure_apply]
  by_cases hdenied : network.listingDenied
  · simp only [hdenied, if_true, bind_apply, emit_apply]
    by_cases hrefused : network.processesDenied
    · simp [hrefused, bind_apply]
    · simp [hrefused, bind_pure_apply, listeningByProcess_apply]
  · simp [hdenied]

/-! ### The order of what is found -/

/-- Endpoints are sorted to the same list in whatever order they are found. -/
theorem Endpoint.sort_eq_of_perm {endpoints others : List Endpoint}
    (hperm : endpoints.Perm others) : Endpoint.sort endpoints = Endpoint.sort others := by
  have hsame : (Endpoint.sort endpoints).Perm (Endpoint.sort others) :=
    (List.mergeSort_perm _ _).trans (hperm.trans (List.mergeSort_perm _ _).symm)
  refine hsame.eq_of_pairwise (fun a b _ _ hab hba => ?_) (Endpoint.pairwise_sort endpoints)
    (Endpoint.pairwise_sort others)
  exact Endpoint.eq_of_url (String.le_antisymm hab hba)

/-- What is chosen for some ports belongs to those for which there is a choice. -/
theorem forall₂_filterMap (choice : Int → Option Endpoint) (ports : List Int) :
    List.Forall₂ (fun endpoint port => choice port = some endpoint) (ports.filterMap choice)
      (ports.filter fun port => (choice port).isSome) := by
  induction ports with
  | nil => exact .nil
  | cons port rest ih =>
      cases hchoice : choice port with
      | none => simpa [hchoice] using ih
      | some endpoint =>
          rw [List.filterMap_cons_some hchoice, List.filter_cons_of_pos (by simp [hchoice])]
          exact .cons hchoice ih

namespace SocketScanner

variable {scanner : SocketScanner τ σ} {scan : Scan τ σ}

/-- A scan that probes in an instant visits all ports, and leaves the scene as it is. -/
theorem run_of_finds {addresses : List SocketAddress}
    (hopen : (openAddresses scan.known scan.scene).result = .ok addresses)
    (htime : ¬ (scanner.sweep scan).deadline ≤ scan.scene.network.now)
    {kind : Int → Endpoint → Prop} (hfinds : ∀ port, Finds scan.scene (kind port)
      (probePort scanner.plan (scanner.sweep scan).deadline (addressesOn scan.addresses port)))
    {choice : Int → Option Endpoint}
    (hchoice : ∀ port endpoint, choice port = some endpoint ↔ kind port endpoint) :
    (scanner.run scan).state = scan.scene ∧
      (scanner.run scan).result = .ok (Endpoint.sort (scan.ports.filterMap choice)) := by
  obtain ⟨hstate, hresult⟩ := sweepPorts_of_finds htime hfinds hchoice scanner.cursor 0
    (rotate scan.ports (scanner.sweep scan).start)
  rw [← ending_eq_sweepPorts] at hstate hresult
  rw [run_of_open hopen, hresult]
  refine ⟨hstate, ?_⟩
  rw [← Endpoint.sort_eq_of_perm ((rotate_perm scan.ports _).filterMap choice)]
  rfl

/-- What a scan goes through that hears some addresses and allows each probe a time to wait. -/
def search (scanner : SocketScanner τ σ) (scan : Scan τ σ) (timeout : τ)
    (heard : List SocketAddress) (paths : List String) : Search τ where
  network := scan.scene.network
  limit := shorter timeout (scan.scene.network.now + scanner.budget - scan.scene.network.now)
  known := scan.known
  heard := heard
  paths := paths

/-- Where requests take no time, a scan with any budget reports, sorted by URL, just the first
endpoint for each port where a server answers. Its cursor makes no difference, and it leaves the
scene as it is. -/
theorem finds_first [Moment.Faithful τ] (scanner : SocketScanner τ σ) (scan : Scan τ σ)
    {timeout : τ} {heard : List SocketAddress} {paths : List String}
    (htimeout : scanner.timeout = some timeout)
    (htexts : scanner.paths.map Value.text? = paths.map some)
    (hbudget : scan.scene.network.now < scan.scene.network.now + scanner.budget)
    (hheard : (listening scan.scene).result = .ok heard)
    (hurls : ∀ address ∈ heard, address.HasUrls)
    (hinstant : scan.scene.network.IsInstant (scanner.search scan timeout heard paths).limit)
    (hhandled : scan.scene.network.IsHandled) :
    ∃ found,
      (∀ desk, (scanner.run (scan.onDesk desk)).result = .ok found ∧
        (scanner.run (scan.onDesk desk)).state = (scan.onDesk desk).scene) ∧
      found.Pairwise (fun a b => a.url ≤ b.url) ∧
      ∃ ports, ports.Nodup ∧
        (∀ port, port ∈ ports ↔
          ∃ address, (scanner.search scan timeout heard paths).IsOpen port address ∧
            (scanner.search scan timeout heard paths).Answers address) ∧
        List.Forall₂ (scanner.search scan timeout heard paths).IsFirst ports found := by
  let search := scanner.search scan timeout heard paths
  have htime : ¬ scan.scene.network.now + scanner.budget ≤ scan.scene.network.now :=
    Moment.Faithful.not_le_of_lt hbudget
  have hmem (desk : σ) (address : SocketAddress) : address ∈ (scan.onDesk desk).addresses ↔
      address ∈ heard ∧ ¬ address.IsCovered scan.known :=
    (scan.onDesk desk).mem_addresses ((listening_result _ _ _).trans hheard) hurls address
  have hfinds (desk : σ) (port : Int) : Finds (scan.onDesk desk).scene (search.IsFirst port)
      (probePort scanner.plan (scanner.sweep (scan.onDesk desk)).deadline
        (addressesOn (scan.onDesk desk).addresses port)) := by
    have hstill : search.IsStill timeout (scan.scene.network.now + scanner.budget)
        (scan.onDesk desk).scene :=
      ⟨rfl, hinstant, hhandled, rfl, fun hspent =>
        htime (Moment.Faithful.le_of_sub_le_zero hspent)⟩
    exact probePort_finds_first hstill htimeout htexts hurls (hmem desk) port
  choose choice hresult hchoice using fun port => (hfinds scan.scene.desk port).result
  refine ⟨Endpoint.sort (scan.ports.filterMap choice), fun desk => ?_,
    Endpoint.pairwise_sort _, ?_⟩
  · obtain ⟨addresses, hopen, -⟩ := openAddresses_result (scan.onDesk desk)
      ((listening_result _ _ _).trans hheard) hurls
    have hports : (scan.onDesk desk).ports = scan.ports := by
      refine portsOf_eq_of_mem_iff fun address => ?_
      rw [hmem desk]
      exact (hmem scan.scene.desk address).symm
    obtain ⟨hstate, hfound⟩ := run_of_finds hopen htime (hfinds desk) hchoice
    rw [hports] at hfound
    exact ⟨hfound, hstate⟩
  · obtain ⟨ports, hall, hperm⟩ := List.perm_comp_forall₂
      (List.mergeSort_perm (scan.ports.filterMap choice) _) (forall₂_filterMap choice scan.ports)
    have hopen := hmem scan.scene.desk
    refine ⟨ports, ?_, fun port => ?_, ?_⟩
    · exact hperm.nodup_iff.mpr ((nodup_ports scan).filter _)
    · have hchosen : (choice port).isSome = true ↔
          ∃ address, search.IsOpen port address ∧ search.Answers address := by
        rw [Option.isSome_iff_exists]
        simp only [hchoice]
        exact Search.exists_isFirst_iff (pairwise_addressesOn scan.addresses port)
          (Search.mem_addressesOn_iff hopen port)
      rw [hperm.mem_iff, List.mem_filter, hchosen]
      refine ⟨fun hport => hport.2, fun hanswered => ⟨?_, hanswered⟩⟩
      obtain ⟨address, ⟨hheard', hfree, hon⟩, -⟩ := hanswered
      exact mem_portsOf.mpr ⟨address, (hopen address).mpr ⟨hheard', hfree⟩, hon⟩
    · exact hall.flip.imp fun port endpoint hport => (hchoice port endpoint).mp hport

end SocketScanner

/-- Where no answer keeps one waiting, requests take no time. -/
theorem Network.isInstant_of_prompt {network : Network Rat} {limit : Rat} (hlimit : 0 < limit)
    (hprompt : ∀ service ∈ network.services, ∀ answer ∈ service.2,
      answer.hangs = false ∧ answer.delay = 0) : network.IsInstant limit := by
  intro url
  unfold Network.behind
  cases hanswer : network.answer? url with
  | none => rfl
  | some answer =>
      obtain ⟨service, hservice, hmem⟩ := Network.mem_services_of_answer? hanswer
      obtain ⟨hcomes, hdelay⟩ := hprompt service hservice answer hmem
      have hearly : answer.isLate (some limit) = false := by
        simp [Answer.isLate, hcomes, hdelay, not_le.mpr hlimit]
      dsimp only
      rw [hearly, hdelay]
      simp

/-- A scanner that tries two paths. -/
def twoPathScanner : SocketScanner Rat Nat :=
  { hastyScanner with paths := [.text "/", .text "/graphql"] }

/-- One port has two addresses with a server on each, and the other port is that of an endpoint that
is known. -/
def crowdedScan : Scan Rat Nat where
  known := [⟨"http://127.0.0.1:4002/graphql", by decide +kernel⟩]
  scene := ⟨⟨0,
    [⟨some "::", 4001, listenStatus, none, none⟩,
      ⟨some "0.0.0.0", 4001, listenStatus, none, none⟩,
      ⟨some "127.0.0.1", 4002, listenStatus, none, none⟩],
    false, [], false,
    [("http://[::1]:4001/", [graphAnswer]), ("http://127.0.0.1:4001/graphql", [graphAnswer]),
      ("http://127.0.0.1:4002/", [graphAnswer])]⟩, 0⟩

def crowdedAddresses : List SocketAddress :=
  [⟨"::", 4001⟩, ⟨"0.0.0.0", 4001⟩, ⟨"127.0.0.1", 4002⟩]

theorem crowdedScan_hears : (listening crowdedScan.scene).result = .ok crowdedAddresses := by
  decide +kernel

theorem crowdedScan_hasUrls : ∀ address ∈ crowdedAddresses, address.HasUrls := by
  have hroots : ∀ address ∈ crowdedAddresses,
      (Endpoint.ofSocket address.ip address.port "/").isOk = true := by
    decide +kernel
  exact fun address haddress => address.hasUrls_iff.mpr (hroots address haddress)

def crowdedSearch : Search Rat :=
  twoPathScanner.search crowdedScan (1 / 2) crowdedAddresses ["/", "/graphql"]

theorem crowdedScan_isInstant : crowdedScan.scene.network.IsInstant crowdedSearch.limit := by
  refine Network.isInstant_of_prompt ?_ ?_
  · decide +kernel
  · decide +kernel

theorem graphAnswer_isHandled : graphAnswer.IsHandled where
  failure failure hfailure := by cases hfailure
  body fault hfault := by
    have hparses : (Json.parse graphAnswer.body.toList).isOk = true := by decide +kernel
    rw [hfault] at hparses
    cases hparses

theorem crowdedScan_isHandled : crowdedScan.scene.network.IsHandled := by
  intro url answer hanswer
  obtain ⟨service, hservice, hmem⟩ := Network.mem_services_of_answer? hanswer
  have hsame : ∀ service ∈ crowdedScan.scene.network.services, service.2 = [graphAnswer] := by
    simp [crowdedScan]
  rw [hsame service hservice, List.mem_singleton] at hmem
  rw [hmem]
  exact graphAnswer_isHandled

theorem crowdedSearch_isOpen : crowdedSearch.IsOpen 4001 ⟨"0.0.0.0", 4001⟩ := by
  refine ⟨by decide, fun hcovered => ?_, rfl⟩
  obtain ⟨endpoint, ⟨path, hpath⟩, other, hother, hshared⟩ := hcovered
  rw [Endpoint.origin_ofSocket hpath] at hshared
  have hother' : ∀ other ∈ crowdedScan.known,
      Endpoint.socketOrigin "0.0.0.0" 4001 ≠ other.origin := by
    decide +kernel
  exact hother' other hother hshared

theorem crowdedSearch_answers : crowdedSearch.Answers ⟨"0.0.0.0", 4001⟩ := by
  let endpoint : Endpoint := ⟨"http://127.0.0.1:4001/graphql", by decide +kernel⟩
  refine ⟨"/graphql", by decide, endpoint, by decide +kernel, ?_⟩
  have hserved : (servesGraphQL endpoint (some crowdedSearch.limit) crowdedScan.scene).result =
      .ok true := by
    decide +kernel
  exact (servesGraphQL_result_iff _ _ _).mp hserved

theorem crowdedSearch_not_isOpen (address : SocketAddress) :
    ¬ crowdedSearch.IsOpen 4002 address := by
  intro ⟨hheard, hfree, hport⟩
  have hlast : ∀ address ∈ crowdedAddresses, address.port = 4002 →
      address = ⟨"127.0.0.1", 4002⟩ := by
    decide
  obtain rfl := hlast address hheard hport
  have hknown : ∀ other ∈ crowdedScan.known,
      Endpoint.ofSocket "127.0.0.1" 4002 "/graphql" = .ok other := by
    decide +kernel
  have hmem := List.mem_cons_self (a := crowdedScan.known[0]) (l := [])
  exact hfree ⟨_, ⟨"/graphql", hknown _ hmem⟩, _, hmem, rfl⟩

/-- The port of the servers is reported, and that of the known endpoint is not. -/
theorem finds_first_crowdedScan :
    crowdedScan.scene.network.now < crowdedScan.scene.network.now + twoPathScanner.budget ∧
      (listening crowdedScan.scene).result = .ok crowdedAddresses ∧
      (∀ address ∈ crowdedAddresses, address.HasUrls) ∧
      crowdedScan.scene.network.IsInstant crowdedSearch.limit ∧
      crowdedScan.scene.network.IsHandled ∧
      ∃ found, (∀ desk, (twoPathScanner.run (crowdedScan.onDesk desk)).result = .ok found) ∧
        ∃ ports, 4001 ∈ ports ∧ 4002 ∉ ports ∧
          List.Forall₂ crowdedSearch.IsFirst ports found := by
  have hbudget :
      crowdedScan.scene.network.now < crowdedScan.scene.network.now + twoPathScanner.budget := by
    decide +kernel
  obtain ⟨found, hruns, -, ports, -, hports, hfirst⟩ :=
    twoPathScanner.finds_first crowdedScan rfl rfl hbudget crowdedScan_hears crowdedScan_hasUrls
      crowdedScan_isInstant crowdedScan_isHandled
  refine ⟨hbudget, crowdedScan_hears, crowdedScan_hasUrls, crowdedScan_isInstant,
    crowdedScan_isHandled, found, fun desk => (hruns desk).1, ports, ?_, ?_, hfirst⟩
  · exact (hports 4001).mpr ⟨_, crowdedSearch_isOpen, crowdedSearch_answers⟩
  · intro hport
    obtain ⟨address, hopen, -⟩ := (hports 4002).mp hport
    exact crowdedSearch_not_isOpen address hopen

/-- What answers fails with something that is no matter of requests. -/
def strayScan (ip : String) : Scan Rat Nat where
  known := []
  scene := ⟨⟨0, [⟨some ip, 4000, listenStatus, none, none⟩], false, [], false,
    [("http://127.0.0.1:4000/",
      [⟨200, "OK", "", 0, false, some (.other .runtimeError (some "boom")), none, none⟩])]⟩, 0⟩

theorem strayScan_fails_probing : (hastyScanner.run (strayScan "127.0.0.1")).result =
    .error (.other .runtimeError (some "boom")) := by
  have haddresses : (strayScan "127.0.0.1").addresses = [⟨"127.0.0.1", 4000⟩] := by
    decide +kernel
  have hports : (strayScan "127.0.0.1").ports = [4000] := by
    rw [Scan.ports, haddresses]
    exact portsOf_eq (by decide) fun _ => by simp
  have hvisits : hastyScanner.visits (strayScan "127.0.0.1") = [_] :=
    SocketScanner.visits_of_single hports
  have hfailure : ((hastyScanner.sweep (strayScan "127.0.0.1")).visit 4000
      (strayScan "127.0.0.1").scene).failure? =
        some (.other .runtimeError (some "boom")) := by
    have hhere : addressesOn [⟨"127.0.0.1", 4000⟩] 4000 = [⟨"127.0.0.1", 4000⟩] :=
      addressesOn_eq_self (by decide) (by decide)
    rw [Sweep.visit]
    dsimp only [SocketScanner.sweep]
    rw [haddresses, hhere]
    decide +kernel
  rw [SocketScanner.run_apply (hports ▸ List.cons_ne_nil _ _), SocketScanner.ending, Sweep.ending,
    hvisits, List.findSome?_cons, hfailure]
  rfl

theorem strayScan_fails_listing :
    (hastyScanner.run (strayScan "[")).result = .error (.valueError "Invalid IPv6 URL") := by
  have hopen : (openAddresses (strayScan "[").known (strayScan "[").scene).result =
      .error (.valueError "Invalid IPv6 URL") := by
    decide +kernel
  rw [SocketScanner.run_of_closed hopen]

/-- A failure of another class ends a scan, and so does an address without a URL, though requests
take no time. -/
theorem fails_strayScan :
    hastyScanner.paths ≠ [] ∧ 0 < hastyScanner.budget ∧
      (∀ ip ∈ ["127.0.0.1", "["], (listening (strayScan ip).scene).result = .ok [⟨ip, 4000⟩] ∧
        (strayScan ip).scene.network.IsInstant (1 / 2)) ∧
      (hastyScanner.run (strayScan "127.0.0.1")).result =
        .error (.other .runtimeError (some "boom")) ∧
      (hastyScanner.run (strayScan "[")).result = .error (.valueError "Invalid IPv6 URL") := by
  refine ⟨List.cons_ne_nil _ _, one_half_pos, fun ip hip => ⟨?_, ?_⟩, strayScan_fails_probing,
    strayScan_fails_listing⟩
  · revert ip
    decide +kernel
  · refine Network.isInstant_of_prompt one_half_pos fun service hservice answer hanswer => ?_
    obtain rfl := List.mem_singleton.mp hservice
    obtain rfl := List.mem_singleton.mp hanswer
    exact ⟨rfl, rfl⟩

end SubgraphLauncher
