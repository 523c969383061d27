import SubgraphLauncher.Proofs.Scanning.Frame
import SubgraphLauncher.Proofs.Scanning.Ports
import SubgraphLauncher.Proofs.Trace

/-!
# Listening sockets, process by process

A host that refuses to list all its sockets is asked for those of each process. The processes are
asked in turn, and three faults of a process are passed over: it is closed to the user, it is gone,
or it is only left to be waited for. `listeningByProcess_apply` says all that can come of it. Where
no other fault is met with, what is heard are the addresses of the processes that can be looked at.
The first other fault ends the listing, and what the other processes have told is lost with it:
`listening_heard_iff` says that such a fault is the only obstacle, whatever else there is among the
processes.
-/

namespace SubgraphLauncher

open SubgraphLauncher.Action

variable {τ σ : Type}

/-! ### One process -/

namespace HostProcess

/-- The fault of the process is none of those that are passed over. -/
def Bars (process : HostProcess τ) : Prop :=
  process.fault = some .unknown ∨ process.fault = some .notPermitted

/-- The failure with which a listing ends at the process. -/
def failure? (process : HostProcess τ) : Option (Failure τ) :=
  match process.fault with
  | some fault => if fault.isSkipped then none else some (.process fault process.pid)
  | none => none

/-- What the process adds to a listing. -/
def heard [Moment τ] (now : τ) (process : HostProcess τ) : List SocketAddress :=
  match process.fault with
  | some _ => []
  | none => listeningAmong now process.sockets

theorem failure?_eq_some_iff (process : HostProcess τ) (failure : Failure τ) :
    process.failure? = some failure ↔
      process.Bars ∧
        ∃ fault, process.fault = some fault ∧ failure = .process fault process.pid := by
  unfold failure? Bars
  cases process.fault with
  | none => simp
  | some fault => cases fault <;> simp [ProcessFault.isSkipped, eq_comm]

theorem failure?_eq_none_iff (process : HostProcess τ) :
    process.failure? = none ↔ ¬ process.Bars := by
  unfold failure? Bars
  cases process.fault with
  | none => simp
  | some fault => cases fault <;> simp [ProcessFault.isSkipped]

theorem findSome?_failure?_eq_none_iff (processes : List (HostProcess τ)) :
    processes.findSome? failure? = none ↔ ∀ process ∈ processes, ¬ process.Bars := by
  simp only [List.findSome?_eq_none_iff, failure?_eq_none_iff]

end HostProcess

/-- A socket that accepts connections now, on an address. -/
structure Socket.Listens [Moment τ] (socket : Socket τ) (now : τ) (address : SocketAddress) :
    Prop where
  here : socket.span.covers now = true
  status : socket.status = listenStatus
  ip : socket.ip = some address.ip
  port : socket.port = address.port

section Listing

variable [Moment τ]

theorem Socket.address?_eq_some_iff (socket : Socket τ) (now : τ) (address : SocketAddress) :
    socket.address? now = some address ↔ socket.Listens now address := by
  unfold Socket.address?
  constructor
  · intro hsome
    split at hsome
    · rename_i hopen
      rw [Bool.and_eq_true, beq_iff_eq] at hopen
      obtain ⟨ip, hip, rfl⟩ := Option.map_eq_some_iff.mp hsome
      exact ⟨hopen.1, hopen.2, hip, rfl⟩
    · cases hsome
  · intro ⟨hhere, hstatus, hip, hport⟩
    rw [hhere, hstatus, hip, hport]
    rfl

theorem HostProcess.mem_heard (process : HostProcess τ) (now : τ) (address : SocketAddress) :
    address ∈ process.heard now ↔
      process.fault = none ∧ ∃ socket ∈ process.sockets, socket.Listens now address := by
  unfold HostProcess.heard
  cases process.fault with
  | some fault => simp
  | none => simp [listeningAmong, Socket.address?_eq_some_iff]

/-! ### All processes -/

/-- A listing ends with the failure of the first process that bars it, or it has the addresses of
all processes. It changes nothing and is not seen. -/
theorem listeningByProcess_apply (now : τ) (processes : List (HostProcess τ)) (scene : Scene τ σ) :
    listeningByProcess now processes scene =
      ⟨match processes.findSome? HostProcess.failure? with
        | some failure => .error failure
        | none => .ok (processes.flatMap (HostProcess.heard now)), scene, []⟩ := by
  induction processes with
  | nil => rfl
  | cons process rest ih =>
      rw [List.findSome?_cons, List.flatMap_cons]
      cases hfault : process.fault with
      | none =>
          have hnone : process.failure? = none := by rw [HostProcess.failure?, hfault]
          have hheard : process.heard now = listeningAmong now process.sockets := by
            rw [HostProcess.heard, hfault]
          unfold listeningByProcess
          rw [hnone, hheard, hfault]
          dsimp only
          rw [bind_pure_apply, ih]
          cases rest.findSome? HostProcess.failure? <;> rfl
      | some fault =>
          have hheard : process.heard now = [] := by rw [HostProcess.heard, hfault]
          unfold listeningByProcess
          rw [hheard, hfault]
          dsimp only
          by_cases hskipped : fault.isSkipped
          · have hnone : process.failure? = none := by
              rw [HostProcess.failure?, hfault]
              exact if_pos hskipped
            rw [if_pos hskipped, hnone, ih]
            rfl
          · have hsome : process.failure? = some (.process fault process.pid) := by
              rw [HostProcess.failure?, hfault]
              exact if_neg hskipped
            rw [if_neg hskipped, hsome]
            rfl

/-- What is noted when the host refuses to list its sockets. -/
def fallbackNote : String :=
  "System-wide socket listing denied, falling back to per-process listing."

/-- What is seen of a listing. -/
def Network.listingNotes (network : Network τ) : List (PartnerEvent τ) :=
  if network.listingDenied then [.note .scanner fallbackNote] else []

/-- The host lists its sockets, or its processes and none of them bars the listing. -/
def Network.IsReadable (network : Network τ) : Prop :=
  network.listingDenied = true →
    network.processesDenied = false ∧ ∀ process ∈ network.running, ¬ process.Bars

/-- The host lists an address if a socket there accepts connections now: one of the sockets of the
machine, or, where that question is refused, one of a process that can be looked at. -/
def Network.Lists (network : Network τ) (address : SocketAddress) : Prop :=
  if network.listingDenied then
    ∃ process ∈ network.running, process.fault = none ∧
      ∃ socket ∈ process.sockets, socket.address? network.now = some address
  else ∃ socket ∈ network.sockets, socket.address? network.now = some address

theorem listening_of_granted {scene : Scene τ σ} (hgranted : scene.network.listingDenied = false) :
    listening scene =
      ⟨.ok (listeningAmong scene.network.now scene.network.sockets).eraseDups, scene, []⟩ := by
  simp [listening, PartnerAction.network, bind_apply, hgranted]

theorem listening_of_closed {scene : Scene τ σ} (hdenied : scene.network.listingDenied = true)
    (hclosed : scene.network.processesDenied = true) :
    listening scene =
      ⟨.error (.process .denied 0), scene, [.note .scanner fallbackNote]⟩ := by
  simp only [listening, PartnerAction.network, PartnerAction.note, bind_apply, current_apply,
    pure_apply, hdenied, if_true, emit_apply, hclosed, raise_apply]
  rfl

theorem listening_of_denied {scene : Scene τ σ} (hdenied : scene.network.listingDenied = true)
    (hopen : scene.network.processesDenied = false) :
    listening scene =
      ⟨match scene.network.running.findSome? HostProcess.failure? with
        | some failure => .error failure
        | none => .ok
          (scene.network.running.flatMap (HostProcess.heard scene.network.now)).eraseDups,
        scene, [.note .scanner fallbackNote]⟩ := by
  simp only [listening, PartnerAction.network, PartnerAction.note, bind_apply, current_apply,
    pure_apply, hdenied, if_true, emit_apply, hopen, Bool.false_eq_true, if_false,
    listeningByProcess_apply]
  cases scene.network.running.findSome? HostProcess.failure? <;> rfl

theorem listening_events (scene : Scene τ σ) :
    (listening scene).events = scene.network.listingNotes := by
  unfold Network.listingNotes
  cases hdenied : scene.network.listingDenied with
  | false => rw [listening_of_granted hdenied, if_neg Bool.false_ne_true]
  | true =>
      rw [if_pos rfl]
      cases hclosed : scene.network.processesDenied with
      | true => rw [listening_of_closed hdenied hclosed]
      | false => rw [listening_of_denied hdenied hclosed]

/-- A listing has a result just where the host can be read. -/
theorem exists_heard_iff (scene : Scene τ σ) :
    (∃ heard, (listening scene).result = .ok heard) ↔ scene.network.IsReadable := by
  unfold Network.IsReadable
  cases hdenied : scene.network.listingDenied with
  | false =>
      rw [listening_of_granted hdenied]
      simp
  | true =>
      cases hclosed : scene.network.processesDenied with
      | true =>
          rw [listening_of_closed hdenied hclosed]
          simp
      | false =>
          rw [listening_of_denied hdenied hclosed, ← HostProcess.findSome?_failure?_eq_none_iff]
          cases scene.network.running.findSome? HostProcess.failure? <;> simp

/-- What is heard are the addresses that the host lists, each once. -/
theorem mem_of_heard {scene : Scene τ σ} {heard : List SocketAddress}
    (hheard : (listening scene).result = .ok heard) :
    heard.Nodup ∧ ∀ address, address ∈ heard ↔ scene.network.Lists address := by
  unfold Network.Lists
  cases hdenied : scene.network.listingDenied with
  | false =>
      rw [listening_of_granted hdenied] at hheard
      obtain rfl := Except.ok.inj hheard
      refine ⟨nodup_eraseDups _, fun address => ?_⟩
      rw [if_neg Bool.false_ne_true, List.mem_eraseDups, listeningAmong, List.mem_filterMap]
  | true =>
      cases hclosed : scene.network.processesDenied with
      | true =>
          rw [listening_of_closed hdenied hclosed] at hheard
          cases hheard
      | false =>
          rw [listening_of_denied hdenied hclosed] at hheard
          dsimp only at hheard
          split at hheard
          · cases hheard
          · obtain rfl := Except.ok.inj hheard
            refine ⟨nodup_eraseDups _, fun address => ?_⟩
            simp only [if_true, List.mem_eraseDups, List.mem_flatMap, HostProcess.mem_heard,
              Socket.address?_eq_some_iff]

/-- Where the host refuses to list its sockets at once, a listing has a result exactly if no process
has a fault that bars it. What is heard then are the addresses, each once, on which the processes
that can be looked at accept connections. The first process that bars the listing ends it with its
fault, whatever the others have told. -/
theorem listening_heard_iff (scene : Scene τ σ) (hdenied : scene.network.listingDenied = true)
    (hopen : scene.network.processesDenied = false) :
    ((∃ heard, (listening scene).result = .ok heard) ↔
      ∀ process ∈ scene.network.running, ¬ process.Bars) ∧
    (∀ heard, (listening scene).result = .ok heard → heard.Nodup ∧ ∀ address, address ∈ heard ↔
      ∃ process ∈ scene.network.running, process.fault = none ∧
        ∃ socket ∈ process.sockets, socket.Listens scene.network.now address) ∧
    (∀ before process after, scene.network.running = before ++ process :: after →
      (∀ earlier ∈ before, ¬ earlier.Bars) → process.Bars →
      ∃ fault, process.fault = some fault ∧
        (listening scene).result = .error (.process fault process.pid)) ∧
    (listening scene).state = scene ∧
    (listening scene).events = [.note .scanner fallbackNote] := by
  refine ⟨?_, fun heard hheard => ?_, ?_, listening_state scene, ?_⟩
  · rw [exists_heard_iff, Network.IsReadable, hdenied, hopen]
    simp
  · obtain ⟨hnodup, hmem⟩ := mem_of_heard hheard
    refine ⟨hnodup, fun address => ?_⟩
    rw [hmem, Network.Lists, hdenied, if_pos rfl]
    simp only [Socket.address?_eq_some_iff]
  · intro before process after hsplit hbefore hbars
    obtain ⟨fault, hfault⟩ : ∃ fault, process.fault = some fault := hbars.elim (⟨_, ·⟩) (⟨_, ·⟩)
    have hfirst : scene.network.running.findSome? HostProcess.failure? =
        some (.process fault process.pid) := by
      refine List.findSome?_eq_some_iff.mpr ⟨before, process, after, hsplit, ?_, ?_⟩
      · exact (process.failure?_eq_some_iff _).mpr ⟨hbars, fault, hfault, rfl⟩
      · exact fun earlier hearlier => earlier.failure?_eq_none_iff.mpr (hbefore earlier hearlier)
    exact ⟨fault, hfault, by rw [listening_of_denied hdenied hopen, hfirst]⟩
  · rw [listening_events, Network.listingNotes, hdenied, if_pos rfl]

end Listing

/-- Of three processes, one can be looked at and listens on one port, one is closed to the user, and
the last one has some fault. -/
def guardedHost (fault : ProcessFault) : Scene Rat Unit where
  network :=
    { now := 0
      sockets := []
      listingDenied := true
      processes :=
        [⟨1, [⟨some "127.0.0.1", 4000, listenStatus, none, none⟩,
            ⟨some "127.0.0.1", 53211, "ESTABLISHED", none, none⟩,
            ⟨none, 4002, listenStatus, none, none⟩], none, none, none⟩,
          ⟨2, [⟨some "127.0.0.1", 4001, listenStatus, none, none⟩], some .denied, none, none⟩,
          ⟨3, [], some fault, none, none⟩]
      processesDenied := false
      services := [] }
  desk := ()

/-- With a process that is only left to be waited for, the open one is heard. -/
theorem listening_heard_iff_guardedHost :
    (guardedHost .zombie).network.listingDenied = true ∧
      (guardedHost .zombie).network.processesDenied = false ∧
      (∀ process ∈ (guardedHost .zombie).network.running, ¬ process.Bars) ∧
      ∃ heard, (listening (guardedHost .zombie)).result = .ok heard ∧
        ⟨"127.0.0.1", 4000⟩ ∈ heard ∧ ⟨"127.0.0.1", 4001⟩ ∉ heard := by
  have hfree : ∀ process ∈ (guardedHost .zombie).network.running, ¬ process.Bars := by
    unfold HostProcess.Bars
    decide +kernel
  obtain ⟨hreturns, hheard, -⟩ := listening_heard_iff (guardedHost .zombie) rfl rfl
  obtain ⟨heard, hresult⟩ := hreturns.mpr hfree
  have hmem := (hheard heard hresult).2
  refine ⟨rfl, rfl, hfree, heard, hresult, (hmem _).mpr ?_, fun hclosed => ?_⟩
  · refine ⟨_, List.mem_cons_self, rfl, _, List.mem_cons_self, ?_⟩
    exact ⟨rfl, rfl, rfl, rfl⟩
  · obtain ⟨process, hprocess, hfault, socket, hsocket, hlistens⟩ := (hmem _).mp hclosed
    have hports : ∀ process ∈ (guardedHost .zombie).network.running, process.fault = none →
        ∀ socket ∈ process.sockets, socket.port ≠ 4001 := by
      decide +kernel
    exact hports process hprocess hfault socket hsocket hlistens.port

/-- Two faults of the last process take away what the first one has told. -/
theorem listening_lost_guardedHost :
    (guardedHost .notPermitted).network.listingDenied = true ∧
      (∃ process ∈ (guardedHost .notPermitted).network.running, process.fault = none ∧
        ∃ socket ∈ process.sockets, socket.Listens 0 ⟨"127.0.0.1", 4000⟩) ∧
      (listening (guardedHost .notPermitted)).result = .error (.process .notPermitted 3) ∧
      (listening (guardedHost .unknown)).result = .error (.process .unknown 3) := by
  refine ⟨rfl, ⟨_, List.mem_cons_self, rfl, _, List.mem_cons_self, ⟨rfl, rfl, rfl, rfl⟩⟩, ?_, ?_⟩
  · decide +kernel
  · decide +kernel

end SubgraphLauncher
