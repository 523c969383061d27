import SubgraphLauncher.Proofs.Scanning.Complete
import SubgraphLauncher.Proofs.Scanning.Transport

/-!
# Scans that do not depend on the order of the tables

A host may list its sockets in any order and as often as it likes, all at once or process by
process, and the known endpoints may come in any order. A scan makes sets of all that: it takes its
ports in increasing order and the addresses of a port in the order of preference, which tells any
two of them apart. So of two scans whose tables differ in such ways only, each does what the other
does.
-/

namespace SubgraphLauncher

open SubgraphLauncher.Action

variable {τ σ : Type}

/-- Two scenes at one time, with the same services and the same desk. Their tables may differ. -/
structure Scene.Twin (first second : Scene τ σ) : Prop where
  now : first.network.now = second.network.now
  services : first.network.services = second.network.services
  desk : first.desk = second.desk

theorem Scene.twin_likeness : Scene.Likeness (Scene.Twin : Scene τ σ → Scene τ σ → Prop) where
  now _ _ htwin := htwin.now
  desk _ _ htwin := htwin.desk
  put _ _ htwin _ := ⟨htwin.now, htwin.services, rfl⟩

section Order

variable [Moment τ]

/-- Two scans with the same known endpoints, on hosts that can be read and list the same addresses
at the time when the scans begin. -/
structure Scan.Twin (first second : Scan τ σ) : Prop where
  known : ∀ endpoint, endpoint ∈ first.known ↔ endpoint ∈ second.known
  scene : first.scene.Twin second.scene
  readable : first.scene.network.IsReadable
  readable' : second.scene.network.IsReadable
  lists : ∀ address, first.scene.network.Lists address ↔ second.scene.network.Lists address

/-! ### Probes of twins -/

section Probes

variable {shown : PartnerEvent τ → Bool}

theorem post_matches_twin (url : String) (body : Value) (timeout : Option τ) :
    Matches Scene.Twin shown (post url body timeout : PartnerAction τ σ Response)
      (post url body timeout) := by
  intro first second htwin
  have hanswer : first.network.answer? url = second.network.answer? url := by
    unfold Network.answer?
    rw [htwin.now, htwin.services]
  rw [post_apply, post_apply]
  constructor
  · simp only [Network.reply, hanswer]
  · refine ⟨?_, htwin.services, htwin.desk⟩
    simp only [Network.behind, hanswer, htwin.now]
  · rfl

omit [Moment τ] in
theorem readProbe_matches_twin (response : Response) :
    Matches Scene.Twin shown (readProbe response : PartnerAction τ σ Value)
      (readProbe response) := by
  rw [readProbe_eq]
  cases (response.read : Except (Failure τ) Value) with
  | ok document => exact matches_pure document
  | error failure => exact matches_raise failure

theorem judgeProbe_matches_twin (endpoint : Endpoint) (probed : Except (Failure τ) Value) :
    Matches Scene.Twin shown (judgeProbe endpoint probed : PartnerAction τ σ Bool)
      (judgeProbe endpoint probed) := by
  cases probed with
  | ok document => exact matches_pure _
  | error failure =>
      unfold judgeProbe
      dsimp only
      split
      · exact (matches_emit _).bind fun _ => matches_pure false
      · exact matches_raise failure

/-- Twins are answered alike. -/
theorem host_serves_matches_twin (endpoint : Endpoint) (timeout : Option τ) :
    Matches Scene.Twin shown (Transport.host.serves endpoint timeout : PartnerAction τ σ Bool)
      (Transport.host.serves endpoint timeout) := by
  rw [Transport.host_serves, servesGraphQL_eq]
  have hprobe : Matches Scene.Twin shown
      (post endpoint.url probeBody timeout >>= readProbe : PartnerAction τ σ Value)
      (post endpoint.url probeBody timeout >>= readProbe) :=
    (post_matches_twin _ _ _).bind readProbe_matches_twin
  exact hprobe.attempt.bind (judgeProbe_matches_twin endpoint)

end Probes

/-! ### What twins set out with -/

omit [Moment τ] in
theorem SocketAddress.isCovered_congr {known others : List Endpoint}
    (hsame : ∀ endpoint, endpoint ∈ known ↔ endpoint ∈ others) (address : SocketAddress) :
    address.IsCovered known ↔ address.IsCovered others := by
  simp only [SocketAddress.IsCovered, hsame]

theorem Scan.nodup_addresses (scan : Scan τ σ) : scan.addresses.Nodup := by
  have hheard : scan.heard.Nodup := by
    unfold Scan.heard
    cases hresult : (listening scan.scene).result with
    | error failure => exact List.nodup_nil
    | ok heard => exact (mem_of_heard hresult).1
  exact hheard.sublist scan.addresses_sublist

namespace Scan.Twin

variable {first second : Scan τ σ}

theorem symm (htwin : first.Twin second) : second.Twin first where
  known endpoint := (htwin.known endpoint).symm
  scene := ⟨htwin.scene.now.symm, htwin.scene.services.symm, htwin.scene.desk.symm⟩
  readable := htwin.readable'
  readable' := htwin.readable
  lists address := (htwin.lists address).symm

/-- What the host of a twin tells are the addresses that it lists. -/
theorem exists_heard (htwin : first.Twin second) :
    ∃ heard, (listening first.scene).result = .ok heard ∧
      ∀ address, address ∈ heard ↔ first.scene.network.Lists address := by
  obtain ⟨heard, hheard⟩ := (exists_heard_iff first.scene).mpr htwin.readable
  exact ⟨heard, hheard, (mem_of_heard hheard).2⟩

theorem hasUrls_iff (htwin : first.Twin second) :
    (∀ address, first.scene.network.Lists address → address.HasUrls) ↔
      ∀ address, second.scene.network.Lists address → address.HasUrls := by
  simp only [htwin.lists]

/-- An address without URLs is in the way of both twins. -/
theorem opens_iff (htwin : first.Twin second) :
    (∃ addresses, (openAddresses first.known first.scene).result = .ok addresses) ↔
      ∀ address, first.scene.network.Lists address → address.HasUrls := by
  obtain ⟨heard, hheard, hmem⟩ := htwin.exists_heard
  rw [openAddresses_returns_iff first hheard]
  simp only [hmem]

theorem mem_addresses_iff (htwin : first.Twin second)
    (hurls : ∀ address, first.scene.network.Lists address → address.HasUrls)
    (address : SocketAddress) :
    address ∈ first.addresses ↔
      first.scene.network.Lists address ∧ ¬ address.IsCovered first.known := by
  obtain ⟨heard, hheard, hmem⟩ := htwin.exists_heard
  rw [first.mem_addresses hheard fun other hother => hurls other ((hmem other).mp hother), hmem]

/-- Twins find out the same open addresses. -/
theorem addresses_iff (htwin : first.Twin second)
    (hurls : ∀ address, first.scene.network.Lists address → address.HasUrls)
    (address : SocketAddress) : address ∈ first.addresses ↔ address ∈ second.addresses := by
  rw [htwin.mem_addresses_iff hurls, htwin.symm.mem_addresses_iff (htwin.hasUrls_iff.mp hurls),
    htwin.lists, SocketAddress.isCovered_congr htwin.known]

/-- The sweeps of twins differ only in how their addresses are listed. -/
theorem sweep_eq (htwin : first.Twin second)
    (hurls : ∀ address, first.scene.network.Lists address → address.HasUrls)
    (scanner : SocketScanner τ σ) :
    scanner.sweep second = { scanner.sweep first with addresses := second.addresses } ∧
      first.ports = second.ports := by
  have hports : first.ports = second.ports := portsOf_eq_of_mem_iff (htwin.addresses_iff hurls)
  refine ⟨?_, hports⟩
  simp only [SocketScanner.sweep, SocketScanner.place, hports, htwin.scene.now, htwin.scene.desk]

end Scan.Twin

/-! ### Scans of twins -/

namespace SocketScanner

variable {first second : Scan τ σ}

/-- Where twins find out the open addresses, their sweeps do the same. -/
theorem ending_paired (scanner : SocketScanner τ σ) (htwin : first.Twin second)
    (hurls : ∀ address, first.scene.network.Lists address → address.HasUrls) :
    Paired Scene.Twin (fun _ => true) (scanner.ending first) (scanner.ending second) := by
  obtain ⟨hsweep, hports⟩ := htwin.sweep_eq hurls scanner
  have haddresses : ∀ port, addressesOn (scanner.sweep first).addresses port =
      addressesOn second.addresses port :=
    addressesOn_eq_of_mem_iff first.nodup_addresses second.nodup_addresses
      (htwin.addresses_iff hurls)
  rw [ending_eq_sweepPorts, ending_eq_sweepPorts, hsweep, ← hports, ← Transport.host_sweepPorts,
    ← Transport.host_sweepPorts]
  exact Transport.sweepPorts_matches Scene.twin_likeness host_serves_matches_twin haddresses
    scanner.cursor 0 _ first.scene second.scene htwin.scene

/-- A scan goes by what is known and what the host lists, not by the order of either, nor by how
often it is told or from which process. Of two scans for which these are the same, each reports what
the other one reports, sends the same requests with the same limits at the same times, and leaves
the same time and the same desk behind, with the cursor on it. They are told apart only by the note
on a refused listing; and by the failure, where both end because there are addresses without
URLs. -/
theorem run_of_twin (scanner : SocketScanner τ σ) (htwin : first.Twin second) :
    (scanner.run first).result.toOption = (scanner.run second).result.toOption ∧
      ((∀ address, first.scene.network.Lists address → address.HasUrls) →
        (scanner.run first).result = (scanner.run second).result) ∧
      (scanner.run first).state.network.now = (scanner.run second).state.network.now ∧
      (scanner.run first).state.desk = (scanner.run second).state.desk ∧
      ∃ events,
        (scanner.run first).events = first.scene.network.listingNotes ++ events ∧
        (scanner.run second).events = second.scene.network.listingNotes ++ events := by
  by_cases hurls : ∀ address, first.scene.network.Lists address → address.HasUrls
  · obtain ⟨addresses, hopen⟩ := htwin.opens_iff.mpr hurls
    obtain ⟨others, hopen'⟩ := htwin.symm.opens_iff.mpr (htwin.hasUrls_iff.mp hurls)
    obtain ⟨hresult, hstate, hevents⟩ := scanner.ending_paired htwin hurls
    rw [List.filter_true, List.filter_true] at hevents
    rw [run_of_open hopen, run_of_open hopen', openAddresses_events, openAddresses_events,
      listening_events, listening_events]
    refine ⟨?_, fun _ => ?_, hstate.now, hstate.desk, (scanner.ending first).events, rfl, ?_⟩
    · dsimp only
      rw [hresult]
    · dsimp only
      rw [hresult]
    · dsimp only
      rw [hevents]
  -- The order of a table decides only which of the addresses without URLs is met first.
  · have hfails {scan other : Scan τ σ} (hscan : scan.Twin other)
        (hnone : ¬ ∀ address, scan.scene.network.Lists address → address.HasUrls) :
        ∃ failure, scanner.run scan =
          ⟨.error failure, scan.scene, scan.scene.network.listingNotes⟩ := by
      rw [← hscan.opens_iff] at hnone
      cases hclosed : (openAddresses scan.known scan.scene).result with
      | ok addresses => exact absurd ⟨addresses, hclosed⟩ hnone
      | error failure =>
          refine ⟨failure, ?_⟩
          rw [run_of_closed hclosed, openAddresses_events, listening_events]
    obtain ⟨failure, hfirst⟩ := hfails htwin hurls
    obtain ⟨failure', hsecond⟩ := hfails htwin.symm (htwin.hasUrls_iff.not.mp hurls)
    rw [hfirst, hsecond]
    refine ⟨rfl, fun hurls' => absurd hurls' hurls, htwin.scene.now, htwin.scene.desk, [], ?_, ?_⟩
    · exact (List.append_nil _).symm
    · exact (List.append_nil _).symm

end SocketScanner

end Order

/-- The sockets of the crowded scan in another order, told by three processes, and one of them
twice. -/
def splitScan : Scan Rat Nat where
  known := crowdedScan.known ++ crowdedScan.known
  scene :=
    { crowdedScan.scene with
      network :=
        { crowdedScan.scene.network with
          sockets := []
          listingDenied := true
          processes :=
            [⟨1, [⟨some "0.0.0.0", 4001, listenStatus, none, none⟩], none, none, none⟩,
              ⟨2, [⟨some "127.0.0.1", 4002, listenStatus, none, none⟩,
                ⟨some "::", 4001, listenStatus, none, none⟩], none, none, none⟩,
              ⟨3, [⟨some "0.0.0.0", 4001, listenStatus, none, none⟩], none, none, none⟩] } }

theorem splitScan_hears : (listening splitScan.scene).result =
    .ok [⟨"0.0.0.0", 4001⟩, ⟨"127.0.0.1", 4002⟩, ⟨"::", 4001⟩] := by
  decide +kernel

theorem crowdedScan_twin : crowdedScan.Twin splitScan where
  known endpoint := by simp [splitScan]
  scene := ⟨rfl, rfl, rfl⟩
  readable := (exists_heard_iff _).mp ⟨_, crowdedScan_hears⟩
  readable' := (exists_heard_iff _).mp ⟨_, splitScan_hears⟩
  lists address := by
    rw [← (mem_of_heard crowdedScan_hears).2, ← (mem_of_heard splitScan_hears).2]
    simp only [crowdedAddresses, List.mem_cons, List.not_mem_nil, or_false]
    tauto

/-- Both scans report the same endpoints, with the same requests behind different notes. -/
theorem run_of_twin_splitScan :
    crowdedScan.Twin splitScan ∧
      (∀ address, crowdedScan.scene.network.Lists address → address.HasUrls) ∧
      (twoPathScanner.run crowdedScan).result = (twoPathScanner.run splitScan).result ∧
      (twoPathScanner.run crowdedScan).state.desk = (twoPathScanner.run splitScan).state.desk ∧
      ∃ events, (twoPathScanner.run crowdedScan).events = events ∧
        (twoPathScanner.run splitScan).events = .note .scanner fallbackNote :: events := by
  have hurls : ∀ address, crowdedScan.scene.network.Lists address → address.HasUrls := by
    intro address hlists
    rw [← (mem_of_heard crowdedScan_hears).2] at hlists
    exact crowdedScan_hasUrls address hlists
  obtain ⟨-, hresult, -, hdesk, events, hfirst, hsecond⟩ :=
    twoPathScanner.run_of_twin crowdedScan_twin
  exact ⟨crowdedScan_twin, hurls, hresult hurls, hdesk, events, hfirst, hsecond⟩

end SubgraphLauncher
