import SubgraphLauncher.Partner.SocketScanner
import SubgraphLauncher.Proofs.Scanning.Origin
import SubgraphLauncher.Proofs.Trace

/-!
# What a scan of the sockets may touch

A scan leaves out every address whose origin is that of a known endpoint, and it goes by the address
with the path of the root. It then posts to other paths on the addresses that are left; since all
endpoints on one address have one origin, none of these has the origin of a known endpoint either.
-/

namespace SubgraphLauncher

open SubgraphLauncher.Action

variable {τ σ : Type}

/-- An endpoint is on a socket if one of its paths leads there. -/
def Endpoint.IsOn (endpoint : Endpoint) (address : SocketAddress) : Prop :=
  ∃ path, Endpoint.ofSocket address.ip address.port path = .ok endpoint

/-- An endpoint on some socket, of an origin that no known endpoint has. -/
structure Endpoint.IsFresh (known : List Endpoint) (endpoint : Endpoint) : Prop where
  placed : ∃ address, endpoint.IsOn address
  origin : ∃ origin, endpoint.origin = .ok origin ∧ ∀ other ∈ known, other.origin ≠ .ok origin

/-- A request goes to an endpoint of a kind; other events are of no account. -/
def PartnerEvent.PostsTo (may : Endpoint → Prop) : PartnerEvent τ → Prop
  | .post url _ _ => ∃ endpoint, endpoint.url = url ∧ may endpoint
  | _ => True

section Parts

variable {may : Endpoint → Prop}

theorem requireEndpoint_shows (endpoint? : Except EndpointFault Endpoint) :
    Shows (PartnerEvent.PostsTo may) (fun endpoint => endpoint? = .ok endpoint)
      (requireEndpoint endpoint? : PartnerAction τ σ Endpoint) := by
  unfold requireEndpoint
  split
  · exact shows_pure rfl
  · exact shows_raise _

theorem originsOf_shows (known : List Endpoint) :
    Shows (PartnerEvent.PostsTo may)
      (fun origins => ∀ endpoint ∈ known, ∃ origin ∈ origins, endpoint.origin = .ok origin)
      (originsOf known : PartnerAction τ σ (List Endpoint)) := by
  induction known with
  | nil => exact shows_pure (List.forall_mem_nil _)
  | cons endpoint rest ih =>
      unfold originsOf
      refine (requireEndpoint_shows endpoint.origin).bind fun origin horigin => ?_
      refine ih.bind fun origins horigins => shows_pure ?_
      have hfirst : ∃ found ∈ origin :: origins, endpoint.origin = .ok found :=
        ⟨origin, List.mem_cons_self, horigin⟩
      refine List.forall_mem_cons.mpr ⟨hfirst, fun other hother => ?_⟩
      obtain ⟨found, hfound, heq⟩ := horigins other hother
      exact ⟨found, List.mem_cons_of_mem origin hfound, heq⟩

/-- An address is left if its root has an origin, and not one of those given. -/
def SocketAddress.IsLeft (origins : List Endpoint) (address : SocketAddress) : Prop :=
  ∃ endpoint origin, Endpoint.ofSocket address.ip address.port "/" = .ok endpoint ∧
    endpoint.origin = .ok origin ∧ origin ∉ origins

theorem uncovered_shows (origins : List Endpoint) (addresses : List SocketAddress) :
    Shows (PartnerEvent.PostsTo may) (fun left => ∀ address ∈ left, address.IsLeft origins)
      (uncovered origins addresses : PartnerAction τ σ (List SocketAddress)) := by
  induction addresses with
  | nil => exact shows_pure (List.forall_mem_nil _)
  | cons address rest ih =>
      unfold uncovered
      refine (requireEndpoint_shows _).bind fun endpoint hendpoint => ?_
      refine (requireEndpoint_shows _).bind fun origin horigin => ih.bind fun left hleft => ?_
      refine shows_pure ?_
      split
      · exact hleft
      · rename_i hother
        refine List.forall_mem_cons.mpr ⟨⟨endpoint, origin, hendpoint, horigin, ?_⟩, hleft⟩
        simpa using hother

variable [Moment τ]

theorem listeningByProcess_shows (now : τ) (processes : List (HostProcess τ)) :
    Shows (PartnerEvent.PostsTo may) (fun _ => True)
      (listeningByProcess now processes : PartnerAction τ σ (List SocketAddress)) := by
  induction processes with
  | nil => exact shows_pure trivial
  | cons process rest ih =>
      unfold listeningByProcess
      split
      · split
        · exact ih
        · exact shows_raise _
      · exact ih.seq fun _ => shows_pure trivial

omit [Moment τ] in
theorem network_shows :
    Shows (PartnerEvent.PostsTo may) (fun _ => True)
      (PartnerAction.network : PartnerAction τ σ (Network τ)) :=
  shows_current.seq fun _ => shows_pure trivial

theorem listening_shows :
    Shows (PartnerEvent.PostsTo may) (fun _ => True)
      (listening : PartnerAction τ σ (List SocketAddress)) := by
  unfold listening
  refine network_shows.seq fun network => ?_
  split
  · refine Shows.seq (shows_emit trivial) fun _ => Shows.unless fun _ => ?_
    exact (listeningByProcess_shows _ _).seq fun _ => shows_pure trivial
  · exact shows_pure trivial

/-- A survey posts to nothing, so whatever is asked of its posts is met. -/
theorem surveySockets_shows :
    Shows (PartnerEvent.PostsTo may) (fun _ => True)
      (surveySockets : PartnerAction τ σ (List Endpoint)) := by
  unfold surveySockets
  refine listening_shows.seq fun heard => ?_
  refine (Shows.mapM (fun address => ?_) heard).seq fun _ => shows_pure trivial
  exact (requireEndpoint_shows _).mono (fun _ hposts => hposts) fun _ _ => trivial

end Parts

/-! ### Probes -/

section Probes

variable [Moment τ] {may : Endpoint → Prop}

theorem post_shows {endpoint : Endpoint} (hmay : may endpoint) (body : Value) (timeout : Option τ) :
    Shows (PartnerEvent.PostsTo may) (fun _ => True)
      (post endpoint.url body timeout : PartnerAction τ σ Response) := by
  have hpost : (PartnerEvent.post endpoint.url body timeout).PostsTo may := ⟨endpoint, rfl, hmay⟩
  unfold post
  refine Shows.seq (shows_emit hpost) fun _ => network_shows.seq fun network => ?_
  split
  · exact shows_raise _
  · split
    · exact Shows.seq (shows_change _) fun _ => shows_raise _
    · refine Shows.seq (shows_change _) fun _ => ?_
      split
      · exact shows_raise _
      · exact shows_pure trivial

theorem servesGraphQL_shows {endpoint : Endpoint} (hmay : may endpoint) (timeout : Option τ) :
    Shows (PartnerEvent.PostsTo may) (fun _ => True)
      (servesGraphQL endpoint timeout : PartnerAction τ σ Bool) := by
  have hsuccess (response : Response) : Shows (PartnerEvent.PostsTo may) (fun _ => True)
      (response.requireSuccess : PartnerAction τ σ Unit) := by
    unfold Response.requireSuccess
    split
    · exact shows_raise _
    · exact shows_pure trivial
  have hdocument (response : Response) : Shows (PartnerEvent.PostsTo may) (fun _ => True)
      (response.document : PartnerAction τ σ Value) := by
    unfold Response.document
    split
    · exact shows_pure trivial
    · exact shows_raise _
  have hprobe : Shows (PartnerEvent.PostsTo may) (fun _ => True) (do
      let response ← post endpoint.url probeBody timeout
      response.requireSuccess
      response.document : PartnerAction τ σ Value) :=
    (post_shows hmay probeBody timeout).seq fun response =>
      (hsuccess response).seq fun _ => hdocument response
  refine hprobe.attempt.bind fun probed _ => ?_
  split
  · exact shows_pure trivial
  · split
    · exact Shows.seq (shows_emit trivial) fun _ => shows_pure trivial
    · exact shows_raise _

omit [Moment τ] in
theorem requirePath_shows (path : Value) :
    Shows (PartnerEvent.PostsTo may) (fun _ => True)
      (requirePath path : PartnerAction τ σ String) := by
  unfold requirePath
  split
  · exact shows_pure trivial
  · exact shows_raise _

omit [Moment τ] in
theorem now_shows :
    Shows (PartnerEvent.PostsTo may) (fun _ => True) (PartnerAction.now : PartnerAction τ σ τ) :=
  network_shows.seq fun _ => shows_pure trivial

/-- Whatever the paths are, probing an address touches and finds endpoints on it only. -/
theorem probePaths_shows (timeout : Option τ) (deadline : τ) {address : SocketAddress}
    (hmay : ∀ endpoint : Endpoint, endpoint.IsOn address → may endpoint) (paths : List Value) :
    Shows (PartnerEvent.PostsTo may) (fun found => ∀ endpoint, found = some endpoint → may endpoint)
      (probePaths timeout deadline address paths : PartnerAction τ σ (Option Endpoint)) := by
  have hnone : ∀ endpoint, none = some endpoint → may endpoint := by
    intro endpoint hsome
    cases hsome
  induction paths with
  | nil => exact shows_pure hnone
  | cons path rest ih =>
      unfold probePaths
      refine now_shows.seq fun now => ?_
      dsimp only
      split
      · exact shows_pure hnone
      · refine (requirePath_shows path).seq fun text => ?_
        refine (requireEndpoint_shows _).bind fun endpoint hendpoint => ?_
        have hallowed := hmay endpoint ⟨text, hendpoint⟩
        cases timeout with
        | none => exact shows_raise _
        | some limit =>
            refine (servesGraphQL_shows hallowed _).seq fun served => ?_
            cases served with
            | true =>
                refine shows_pure fun other hsome => ?_
                cases hsome
                exact hallowed
            | false => exact ih

theorem probePort_shows (plan : ProbePlan τ) (deadline : τ) {addresses : List SocketAddress}
    (hmay : ∀ address ∈ addresses, ∀ endpoint : Endpoint, endpoint.IsOn address → may endpoint) :
    Shows (PartnerEvent.PostsTo may) (fun found => ∀ endpoint, found = some endpoint → may endpoint)
      (probePort plan deadline addresses : PartnerAction τ σ (Option Endpoint)) := by
  induction addresses with
  | nil =>
      refine shows_pure fun endpoint hsome => ?_
      cases hsome
  | cons address rest ih =>
      obtain ⟨hfirst, hrest⟩ := List.forall_mem_cons.mp hmay
      unfold probePort
      refine (probePaths_shows plan.timeout deadline hfirst plan.paths).bind fun found hfound => ?_
      cases found with
      | some endpoint => exact shows_pure hfound
      | none => exact ih hrest

theorem sweepPorts_shows (sweep : Sweep τ) (cursor : Slot σ Nat) (probed : Nat) (ports : List Int)
    (hmay : ∀ address ∈ sweep.addresses, ∀ endpoint : Endpoint, endpoint.IsOn address →
      may endpoint) :
    Shows (PartnerEvent.PostsTo may) (fun found => ∀ endpoint ∈ found, may endpoint)
      (sweepPorts sweep cursor probed ports) := by
  induction ports generalizing probed with
  | nil => exact shows_pure (List.forall_mem_nil _)
  | cons port rest ih =>
      have hport : ∀ address ∈ addressesOn sweep.addresses port, ∀ endpoint : Endpoint,
          endpoint.IsOn address → may endpoint := by
        intro address haddress
        rw [addressesOn, List.mem_mergeSort] at haddress
        exact hmay address (List.mem_filter.mp haddress).1
      unfold sweepPorts
      refine (probePort_shows sweep.plan sweep.deadline hport).bind fun found hfound => ?_
      have hlist : ∀ endpoint ∈ found.toList, may endpoint :=
        fun endpoint hmem => hfound endpoint (Option.mem_toList.mp hmem)
      refine now_shows.seq fun now => ?_
      split
      · refine Shows.seq (shows_emit trivial) fun _ => ?_
        exact Shows.seq (shows_change _) fun _ => shows_pure hlist
      · refine (ih (probed + 1)).bind fun more hmore => shows_pure ?_
        exact List.forall_mem_append.mpr ⟨hlist, hmore⟩

end Probes

/-! ### Scans -/

section Scan

variable [Moment τ]

/-- All endpoints on an address that is left are fresh. -/
theorem SocketAddress.IsLeft.isFresh {known origins : List Endpoint}
    (horigins : ∀ endpoint ∈ known, ∃ origin ∈ origins, endpoint.origin = .ok origin)
    {address : SocketAddress} (hleft : address.IsLeft origins) {endpoint : Endpoint}
    (hon : endpoint.IsOn address) : endpoint.IsFresh known := by
  obtain ⟨root, origin, hroot, horigin, hother⟩ := hleft
  obtain ⟨path, hpath⟩ := hon
  refine ⟨⟨address, path, hpath⟩, origin, ?_, ?_⟩
  · rw [Endpoint.origin_ofSocket hpath, ← Endpoint.origin_ofSocket hroot, horigin]
  · intro other hknown hsame
    obtain ⟨found, hfound, heq⟩ := horigins other hknown
    rw [heq] at hsame
    cases hsame
    exact hother hfound

/-- A scan of the sockets posts to fresh endpoints and finds fresh ones. -/
theorem scanSockets_shows (plan : ProbePlan τ) (cursor : Slot σ Nat) (known : List Endpoint) :
    Shows (PartnerEvent.PostsTo (Endpoint.IsFresh known))
      (fun found => ∀ endpoint ∈ found, endpoint.IsFresh known)
      (scanSockets plan cursor known) := by
  unfold scanSockets
  refine (originsOf_shows known).bind fun origins horigins => listening_shows.seq fun heard => ?_
  refine (uncovered_shows origins heard).bind fun addresses hleft => ?_
  dsimp only
  split
  · exact shows_pure (List.forall_mem_nil _)
  · have hfetch : Shows (PartnerEvent.PostsTo (Endpoint.IsFresh known)) (fun _ => True)
        (PartnerAction.fetch cursor : PartnerAction τ σ Nat) :=
      shows_current.seq fun _ => shows_pure trivial
    refine hfetch.seq fun start => ?_
    split
    · exact shows_raise _
    · refine now_shows.seq fun now => ?_
      refine (sweepPorts_shows _ cursor 0 _ fun address haddress endpoint hon => ?_).bind ?_
      · exact (hleft address haddress).isFresh horigins hon
      · refine fun found hfound => shows_pure fun endpoint hmem => ?_
        rw [Endpoint.sort, List.mem_mergeSort] at hmem
        exact hfound endpoint hmem

end Scan

end SubgraphLauncher
