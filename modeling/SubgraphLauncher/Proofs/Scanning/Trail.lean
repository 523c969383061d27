import SubgraphLauncher.Proofs.Scanning.Answers
import SubgraphLauncher.Proofs.Scanning.Scans

/-!
# The trail of a scan

The requests of a scan are probes that follow each other: each is sent in the scene that the one
before has left behind, so the trail tells at what time and to what network every request goes. An
endpoint is found by the probe that has confirmed it, and that probe is the last one sent to its
port.
-/

namespace SubgraphLauncher

open SubgraphLauncher.Action

variable {τ σ : Type}

/-- A probe that is sent to an endpoint on an address, with a time to wait, in a scene. -/
structure Probe (τ σ : Type) where
  address : SocketAddress
  path : String
  endpoint : Endpoint
  isOn : Endpoint.ofSocket address.ip address.port path = .ok endpoint
  limit : τ
  scene : Scene τ σ

namespace Probe

/-- The request by which a probe is seen. -/
def event (probe : Probe τ σ) : PartnerEvent τ :=
  .post probe.endpoint.url probeBody (some probe.limit)

/-- The probe goes to one of some addresses, with one of some paths. -/
def IsAmong (addresses : List SocketAddress) (paths : List Value) (probe : Probe τ σ) : Prop :=
  probe.address ∈ addresses ∧ ∃ path ∈ paths, path.text? = some probe.path

theorem IsAmong.mono {addresses others : List SocketAddress} {paths more : List Value}
    {probe : Probe τ σ} (hprobe : probe.IsAmong addresses paths) (haddresses : addresses ⊆ others)
    (hpaths : paths ⊆ more) : probe.IsAmong others more := by
  obtain ⟨haddress, path, hpath, htext⟩ := hprobe
  exact ⟨haddresses haddress, path, hpaths hpath, htext⟩

variable [Moment τ]

/-- What answers the probe is a GraphQL server. -/
def IsConfirmed (probe : Probe τ σ) : Prop :=
  probe.scene.network.Confirms probe.endpoint.url probe.limit

/-- The scene that a probe leaves behind. -/
def behind (probe : Probe τ σ) : Scene τ σ :=
  (servesGraphQL probe.endpoint (some probe.limit) probe.scene).state

end Probe

section Trail

variable [Moment τ]

/-- Probes one after the other lead from a scene to another one. -/
def Trail : Scene τ σ → List (Probe τ σ) → Scene τ σ → Prop
  | first, [], last => first = last
  | first, probe :: rest, last => probe.scene = first ∧ Trail probe.behind rest last

theorem Trail.append {first second third : Scene τ σ} {probes more : List (Probe τ σ)}
    (hprobes : Trail first probes second) (hmore : Trail second more third) :
    Trail first (probes ++ more) third := by
  induction probes generalizing first with
  | nil =>
      obtain rfl := hprobes
      exact hmore
  | cons probe rest ih => exact ⟨hprobes.1, ih hprobes.2⟩

/-- The requests of an outcome are those of some probes, sent from a scene on. -/
structure Sends {α : Type} (scene : Scene τ σ)
    (outcome : Outcome (PartnerEvent τ) (Scene τ σ) (Failure τ) α) (probes : List (Probe τ σ)) :
    Prop where
  trail : Trail scene probes outcome.state
  posts : outcome.events.filter PartnerEvent.isPost = probes.map Probe.event

/-- The last of some probes has confirmed an endpoint. -/
def ConfirmedLast (endpoint : Endpoint) (probes : List (Probe τ σ)) : Prop :=
  ∃ front last, probes = front ++ [last] ∧ last.endpoint = endpoint ∧ last.IsConfirmed

theorem Sends.none {α : Type} {scene : Scene τ σ} (result : Except (Failure τ) α) :
    Sends scene ⟨result, scene, []⟩ [] :=
  ⟨rfl, rfl⟩

/-- What goes on behind a result sends its probes behind the others. -/
theorem Sends.bind {α β : Type} {scene : Scene τ σ} {x : PartnerAction τ σ α}
    {f : α → PartnerAction τ σ β} {a : α} {probes more : List (Probe τ σ)}
    (hx : Sends scene (x scene) probes) (ha : (x scene).result = .ok a)
    (hf : Sends (x scene).state (f a (x scene).state) more) :
    Sends scene ((x >>= f) scene) (probes ++ more) := by
  rw [bind_apply, ha]
  refine ⟨hx.trail.append hf.trail, ?_⟩
  dsimp only
  rw [List.filter_append, List.map_append, hx.posts, hf.posts]

theorem Sends.bind_of_error {α β : Type} {scene : Scene τ σ} {x : PartnerAction τ σ α}
    {f : α → PartnerAction τ σ β} {failure : Failure τ} {probes : List (Probe τ σ)}
    (hx : Sends scene (x scene) probes) (hfailure : (x scene).result = .error failure) :
    Sends scene ((x >>= f) scene) probes := by
  rw [bind_apply, hfailure]
  exact ⟨hx.trail, hx.posts⟩

/-! ### The probes of an address -/

omit [Moment τ] in
theorem readProbe_events (response : Response) (scene : Scene τ σ) :
    (readProbe response scene).events = [] := by
  unfold readProbe Response.requireSuccess Response.document
  rw [bind_apply]
  cases response.statusFault? with
  | some text => rfl
  | none => cases Json.parse response.body.toList <;> rfl

/-- One probe is one request. -/
theorem servesGraphQL_filter_isPost (endpoint : Endpoint) (timeout : Option τ)
    (scene : Scene τ σ) :
    (servesGraphQL endpoint timeout scene).events.filter PartnerEvent.isPost =
      [.post endpoint.url probeBody timeout] := by
  have hread : ((post endpoint.url probeBody timeout >>= readProbe) scene).events =
      [.post endpoint.url probeBody timeout] :=
    (events_bind readProbe_events _ scene).trans (by rw [post_apply])
  have hjudge (probed : Except (Failure τ) Value) (later : Scene τ σ) :
      (judgeProbe endpoint probed later).events.filter PartnerEvent.isPost = [] := by
    cases probed with
    | ok document => rfl
    | error failure =>
        unfold judgeProbe
        dsimp only
        split <;> rfl
  rw [servesGraphQL_eq, bind_apply, attempt_apply]
  dsimp only
  rw [List.filter_append, hread, hjudge]
  rfl

theorem Probe.sends (probe : Probe τ σ) :
    Sends probe.scene (servesGraphQL probe.endpoint (some probe.limit) probe.scene) [probe] :=
  ⟨⟨rfl, rfl⟩, servesGraphQL_filter_isPost _ _ _⟩

/-- The first path of an address is not tried, or it is one probe. -/
theorem probePaths_cons_cases (timeout : Option τ) (deadline : τ) (address : SocketAddress)
    (path : Value) (rest : List Value) (scene : Scene τ σ) :
    (∃ result, (∀ endpoint, result ≠ .ok (some endpoint)) ∧
      probePaths timeout deadline address (path :: rest) scene = ⟨result, scene, []⟩) ∨
    ∃ probe : Probe τ σ, probe.address = address ∧ path.text? = some probe.path ∧
      probe.scene = scene ∧
      probePaths timeout deadline address (path :: rest) scene =
        (do
          if ← servesGraphQL probe.endpoint (some probe.limit) then return some probe.endpoint
          else probePaths timeout deadline address rest) scene := by
  by_cases hspent : deadline - scene.network.now ≤ 0
  · exact .inl ⟨_, by simp, probePaths_of_spent hspent _ _ _⟩
  cases htext : path.text? with
  | none =>
      refine .inl ⟨.error (.missingAttribute path.typeName "startswith"), by simp, ?_⟩
      unfold probePaths
      rw [now_bind_apply, if_neg hspent, requirePath, htext]
      rfl
  | some text =>
      cases hendpoint : Endpoint.ofSocket address.ip address.port text with
      | error fault =>
          refine .inl ⟨.error (.valueError fault.message), by simp, ?_⟩
          unfold probePaths
          rw [now_bind_apply, if_neg hspent, requirePath, htext]
          simp only [pure_bind, hendpoint]
          rfl
      | ok endpoint =>
          cases timeout with
          | none =>
              refine .inl ⟨.error .missingComparison, by simp, ?_⟩
              unfold probePaths
              rw [now_bind_apply, if_neg hspent, requirePath, htext]
              simp only [pure_bind, hendpoint]
              rfl
          | some limit =>
              let remaining := deadline - scene.network.now
              refine .inr ⟨⟨address, text, endpoint, hendpoint, shorter limit remaining, scene⟩,
                rfl, rfl, rfl, ?_⟩
              exact (probePaths_cons htext hendpoint rest scene).trans (if_neg hspent)

theorem probePaths_sends (timeout : Option τ) (deadline : τ) (address : SocketAddress)
    (paths : List Value) (scene : Scene τ σ) :
    ∃ probes, Sends scene (probePaths timeout deadline address paths scene) probes ∧
      (∀ probe ∈ probes, probe.IsAmong [address] paths) ∧
      ∀ endpoint, (probePaths timeout deadline address paths scene).result = .ok (some endpoint) →
        ConfirmedLast endpoint probes := by
  induction paths generalizing scene with
  | nil => exact ⟨[], .none _, by simp, by simp [probePaths]⟩
  | cons path rest ih =>
      rcases probePaths_cons_cases timeout deadline address path rest scene with
        ⟨result, hnone, hsilent⟩ | ⟨probe, haddress, hpath, rfl, hprobe⟩
      · rw [hsilent]
        exact ⟨[], .none _, by simp, fun endpoint hfound => absurd hfound (hnone endpoint)⟩
      · have hsends := probe.sends
        have hamong : probe.IsAmong [address] (path :: rest) :=
          ⟨List.mem_singleton.mpr haddress, path, List.mem_cons_self, hpath⟩
        rw [hprobe]
        cases hserved : (servesGraphQL probe.endpoint (some probe.limit) probe.scene).result with
        | error failure =>
            refine ⟨[probe], hsends.bind_of_error hserved, by simpa using hamong, ?_⟩
            intro endpoint hfound
            rw [bind_apply, hserved] at hfound
            cases hfound
        | ok served =>
            cases served with
            | true =>
                refine ⟨[probe], hsends.bind hserved (.none _), by simpa using hamong, ?_⟩
                intro endpoint hfound
                rw [bind_apply, hserved] at hfound
                cases hfound
                exact ⟨[], probe, rfl, rfl, (servesGraphQL_result_iff _ _ _).mp hserved⟩
            | false =>
                obtain ⟨more, hmore, hothers, hlast⟩ := ih probe.behind
                refine ⟨probe :: more, hsends.bind hserved hmore, ?_, ?_⟩
                · refine List.forall_mem_cons.mpr ⟨hamong, fun other hother => ?_⟩
                  exact (hothers other hother).mono (List.Subset.refl _)
                    (List.subset_cons_self path rest)
                · intro endpoint hfound
                  rw [bind_apply, hserved] at hfound
                  obtain ⟨front, last, rfl, hconfirmed⟩ := hlast endpoint hfound
                  exact ⟨probe :: front, last, rfl, hconfirmed⟩

/-! ### The probes of a port -/

theorem probePort_sends (plan : ProbePlan τ) (deadline : τ) (addresses : List SocketAddress)
    (scene : Scene τ σ) :
    ∃ probes, Sends scene (probePort plan deadline addresses scene) probes ∧
      (∀ probe ∈ probes, probe.IsAmong addresses plan.paths) ∧
      ∀ endpoint, (probePort plan deadline addresses scene).result = .ok (some endpoint) →
        ConfirmedLast endpoint probes := by
  induction addresses generalizing scene with
  | nil => exact ⟨[], .none _, by simp, by simp [probePort]⟩
  | cons address rest ih =>
      obtain ⟨probes, hsends, hamong, hlast⟩ :=
        probePaths_sends plan.timeout deadline address plan.paths scene
      have hhere : ∀ probe ∈ probes, probe.IsAmong (address :: rest) plan.paths := by
        intro probe hprobe
        exact (hamong probe hprobe).mono (by simp) (List.Subset.refl _)
      rw [probePort_cons]
      cases hresult : (probePaths plan.timeout deadline address plan.paths scene).result with
      | error failure =>
          refine ⟨probes, hsends.bind_of_error hresult, hhere, fun endpoint hfound => ?_⟩
          rw [bind_apply, hresult] at hfound
          cases hfound
      | ok found? =>
          cases found? with
          | some found =>
              have hends : probes ++ [] = probes := List.append_nil probes
              refine ⟨probes ++ [], hsends.bind hresult (.none _), ?_, fun endpoint hfound => ?_⟩
              · rwa [hends]
              · rw [bind_apply, hresult] at hfound
                cases hfound
                rw [hends]
                exact hlast _ hresult
          | none =>
              obtain ⟨more, hmore, hothers, hlater⟩ :=
                ih (probePaths plan.timeout deadline address plan.paths scene).state
              refine ⟨probes ++ more, hsends.bind hresult hmore, ?_, fun endpoint hfound => ?_⟩
              · refine List.forall_mem_append.mpr ⟨hhere, fun probe hprobe => ?_⟩
                exact (hothers probe hprobe).mono (List.subset_cons_self _ _)
                  (List.Subset.refl _)
              · rw [bind_apply, hresult] at hfound
                obtain ⟨front, last, rfl, hconfirmed⟩ := hlater endpoint hfound
                exact ⟨probes ++ front, last, by rw [List.append_assoc], hconfirmed⟩

/-! ### The probes of a sweep -/

/-- One of some probes has confirmed an endpoint, and no later one goes to its port. -/
def SettledBy (endpoint : Endpoint) (port : Int) (probes : List (Probe τ σ)) : Prop :=
  ∃ front probe back, probes = front ++ probe :: back ∧ probe.endpoint = endpoint ∧
    probe.IsConfirmed ∧ probe.address.port = port ∧ ∀ later ∈ back, later.address.port ≠ port

theorem SettledBy.behind {endpoint : Endpoint} {port : Int} {probes : List (Probe τ σ)}
    (hsettled : SettledBy endpoint port probes) (front : List (Probe τ σ)) :
    SettledBy endpoint port (front ++ probes) := by
  obtain ⟨before, probe, back, rfl, hrest⟩ := hsettled
  exact ⟨front ++ before, probe, back, by rw [List.append_assoc], hrest⟩

theorem ConfirmedLast.settledBy {endpoint : Endpoint} {port : Int} {probes more : List (Probe τ σ)}
    (hlast : ConfirmedLast endpoint probes) (hhere : ∀ probe ∈ probes, probe.address.port = port)
    (hmore : ∀ probe ∈ more, probe.address.port ≠ port) :
    SettledBy endpoint port (probes ++ more) := by
  obtain ⟨front, last, rfl, hendpoint, hconfirmed⟩ := hlast
  refine ⟨front, last, more, ?_, hendpoint, hconfirmed, hhere last (by simp), hmore⟩
  rw [List.append_assoc, List.singleton_append]

/-- Visits of different ports send probes to these ports, one visit after the other. -/
theorem Sweep.visits_send (sweep : Sweep τ) {ports : List Int} (hdistinct : ports.Nodup)
    (scene : Scene τ σ) :
    ∃ probes, Trail scene probes (lastScene scene (sweep.visits scene ports)) ∧
      (sweep.visits scene ports).flatMap (·.outcome.events.filter PartnerEvent.isPost) =
        probes.map Probe.event ∧
      (∀ probe ∈ probes, probe.IsAmong sweep.addresses sweep.plan.paths ∧
        probe.address.port ∈ ports) ∧
      ∀ visit ∈ sweep.visits scene ports, ∀ endpoint,
        visit.outcome.result = .ok (some endpoint) → SettledBy endpoint visit.port probes := by
  induction ports generalizing scene with
  | nil => exact ⟨[], rfl, rfl, by simp, by simp [visits]⟩
  | cons port rest ih =>
      obtain ⟨hother, hrest⟩ := List.nodup_cons.mp hdistinct
      obtain ⟨probes, hsends, hamong, hlast⟩ :=
        probePort_sends sweep.plan sweep.deadline (addressesOn sweep.addresses port) scene
      have hhere : ∀ probe ∈ probes, probe.address.port = port :=
        fun probe hprobe => (mem_addressesOn.mp (hamong probe hprobe).1).2
      have hheard : ∀ probe ∈ probes, probe.IsAmong sweep.addresses sweep.plan.paths :=
        fun probe hprobe => (hamong probe hprobe).mono
          (fun address haddress => (mem_addressesOn.mp haddress).1) (List.Subset.refl _)
      -- Where the scan stops behind this visit, no probes follow.
      obtain ⟨more, htrail, hposts, hports, hsettled⟩ : ∃ more : List (Probe τ σ),
          let behind := (sweep.visit port scene).outcome.state
          let later := if (sweep.visit port scene).leavesTime sweep.deadline then
            sweep.visits behind rest else []
          Trail behind more (lastScene behind later) ∧
            later.flatMap (·.outcome.events.filter PartnerEvent.isPost) =
              more.map Probe.event ∧
            (∀ probe ∈ more, probe.IsAmong sweep.addresses sweep.plan.paths ∧
              probe.address.port ∈ rest) ∧
            ∀ visit ∈ later, ∀ endpoint,
              visit.outcome.result = .ok (some endpoint) → SettledBy endpoint visit.port more := by
        dsimp only
        split
        · exact ih hrest _
        · exact ⟨[], rfl, rfl, by simp, by simp⟩
      refine ⟨probes ++ more, ?_, ?_, ?_, ?_⟩
      · rw [visits, lastScene_cons]
        exact hsends.trail.append htrail
      · rw [visits, List.flatMap_cons, hposts, List.map_append, ← hsends.posts]
        rfl
      · refine List.forall_mem_append.mpr ⟨fun probe hprobe => ?_, fun probe hprobe => ?_⟩
        · exact ⟨hheard probe hprobe, List.mem_cons.mpr (.inl (hhere probe hprobe))⟩
        · exact ⟨(hports probe hprobe).1, List.mem_cons_of_mem _ (hports probe hprobe).2⟩
      · rw [visits]
        refine List.forall_mem_cons.mpr ⟨fun endpoint hfound => ?_, fun visit hvisit endpoint hfound
          => (hsettled visit hvisit endpoint hfound).behind probes⟩
        refine (hlast endpoint hfound).settledBy hhere fun probe hprobe heq => ?_
        have hlater := (hports probe hprobe).2
        rw [heq] at hlater
        exact hother hlater

end Trail

end SubgraphLauncher
