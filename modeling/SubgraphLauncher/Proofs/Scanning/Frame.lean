import SubgraphLauncher.Partner.SocketScanner
import SubgraphLauncher.Proofs.Frame

/-!
# What a scan of the sockets leaves alone

Looking at the sockets, comparing origins and reading answers only reads the scene, so all of that
keeps every view of it. Requests let time pass, and nothing else changes: probing a port leaves the
scene as it was at another time. The desk in particular, where the cursor lies, is touched by no
probe.
-/

namespace SubgraphLauncher

open SubgraphLauncher.Action

variable {τ σ α γ : Type}

section Reading

variable {view : Scene τ σ → γ}

theorem requireEndpoint_keeps (endpoint : Except EndpointFault Endpoint) :
    Keeps view (requireEndpoint endpoint : PartnerAction τ σ Endpoint) := by
  unfold requireEndpoint
  split
  · exact keeps_pure _
  · exact keeps_raise _

theorem requireEndpoint_result {endpoint? : Except EndpointFault Endpoint} {scene : Scene τ σ}
    {endpoint : Endpoint} (hresult : (requireEndpoint endpoint? scene).result = .ok endpoint) :
    endpoint? = .ok endpoint := by
  cases endpoint? with
  | error fault => cases hresult
  | ok found => rw [Except.ok.inj hresult]

theorem requirePath_keeps (path : Value) :
    Keeps view (requirePath path : PartnerAction τ σ String) := by
  unfold requirePath
  split
  · exact keeps_pure _
  · exact keeps_raise _

theorem network_keeps : Keeps view (PartnerAction.network : PartnerAction τ σ _) :=
  keeps_current.bind fun _ => keeps_pure _

theorem now_keeps : Keeps view (PartnerAction.now : PartnerAction τ σ τ) :=
  network_keeps.bind fun _ => keeps_pure _

/-- What follows the clock is told the time. -/
theorem now_bind_apply (f : τ → PartnerAction τ σ α) (scene : Scene τ σ) :
    (PartnerAction.now >>= f) scene = f scene.network.now scene := by
  rw [bind_apply]
  rfl

theorem fetch_keeps (slot : Slot σ α) :
    Keeps view (PartnerAction.fetch slot : PartnerAction τ σ α) :=
  keeps_current.bind fun _ => keeps_pure _

/-- What follows a look at the desk is told what lies there. -/
theorem fetch_bind_apply {β : Type} (slot : Slot σ α) (f : α → PartnerAction τ σ β)
    (scene : Scene τ σ) :
    (PartnerAction.fetch slot >>= f) scene = f (slot.get scene.desk) scene := by
  rw [bind_apply]
  rfl

theorem listeningByProcess_keeps [Moment τ] (now : τ) (processes : List (HostProcess τ)) :
    Keeps view (listeningByProcess now processes : PartnerAction τ σ _) := by
  induction processes with
  | nil => exact keeps_pure _
  | cons process rest ih =>
      unfold listeningByProcess
      split
      · split
        · exact ih
        · exact keeps_raise _
      · exact ih.bind fun _ => keeps_pure _

theorem listening_keeps [Moment τ] : Keeps view (listening : PartnerAction τ σ _) := by
  unfold listening
  refine network_keeps.bind fun network => ?_
  split
  · refine (keeps_emit _).bind fun _ => Keeps.unless fun _ => ?_
    exact (listeningByProcess_keeps _ _).bind fun _ => keeps_pure _
  · exact keeps_pure _

theorem originsOf_keeps (endpoints : List Endpoint) :
    Keeps view (originsOf endpoints : PartnerAction τ σ _) := by
  induction endpoints with
  | nil => exact keeps_pure _
  | cons endpoint rest ih =>
      exact (requireEndpoint_keeps _).bind fun _ => ih.bind fun _ => keeps_pure _

theorem listening_state [Moment τ] (scene : Scene τ σ) : (listening scene).state = scene := by
  have hkeeps : Keeps id (listening : PartnerAction τ σ (List SocketAddress)) := listening_keeps
  exact hkeeps scene

theorem originsOf_state (endpoints : List Endpoint) (scene : Scene τ σ) :
    (originsOf endpoints scene).state = scene := by
  have hkeeps : Keeps id (originsOf endpoints : PartnerAction τ σ (List Endpoint)) :=
    originsOf_keeps endpoints
  exact hkeeps scene

theorem uncovered_keeps (origins : List Endpoint) (addresses : List SocketAddress) :
    Keeps view (uncovered origins addresses : PartnerAction τ σ _) := by
  induction addresses with
  | nil => exact keeps_pure _
  | cons address rest ih =>
      refine (requireEndpoint_keeps _).bind fun _ => (requireEndpoint_keeps _).bind fun _ => ?_
      exact ih.bind fun _ => keeps_pure _

/-- The document in the answer to a probe. -/
def readProbe (response : Response) : PartnerAction τ σ Value := do
  response.requireSuccess
  response.document

/-- What becomes of the document, or of the failure, that a probe has led to. -/
def judgeProbe [Moment τ] (endpoint : Endpoint) :
    Except (Failure τ) Value → PartnerAction τ σ Bool
  | .ok document => return answersProbe document
  | .error failure =>
    if failure.isIn .request || failure.isIn .value then do
      PartnerAction.note .scanner
        (endpoint.url ++ " did not answer the GraphQL probe: " ++ failure.message)
      return false
    else Action.raise failure

theorem servesGraphQL_eq [Moment τ] (endpoint : Endpoint) (timeout : Option τ) :
    (servesGraphQL endpoint timeout : PartnerAction τ σ Bool) =
      (post endpoint.url probeBody timeout >>= readProbe).attempt >>= judgeProbe endpoint := by
  unfold servesGraphQL
  congr 1

theorem readProbe_keeps (response : Response) :
    Keeps view (readProbe response : PartnerAction τ σ Value) := by
  have hsuccess : Keeps view (response.requireSuccess : PartnerAction τ σ Unit) := by
    unfold Response.requireSuccess
    split
    · exact keeps_raise _
    · exact keeps_pure _
  have hdocument : Keeps view (response.document : PartnerAction τ σ Value) := by
    unfold Response.document
    split
    · exact keeps_pure _
    · exact keeps_raise _
  exact hsuccess.bind fun _ => hdocument

theorem judgeProbe_keeps [Moment τ] (endpoint : Endpoint) (probed : Except (Failure τ) Value) :
    Keeps view (judgeProbe endpoint probed : PartnerAction τ σ Bool) := by
  cases probed with
  | ok document => exact keeps_pure _
  | error failure =>
      unfold judgeProbe
      dsimp only
      split
      · exact (keeps_emit _).bind fun _ => keeps_pure _
      · exact keeps_raise _

end Reading

theorem keep_keeps (slot : Slot σ α) (value : α) :
    Keeps Scene.network (PartnerAction.keep slot value : PartnerAction τ σ Unit) :=
  keeps_change fun _ => rfl

section Probing

variable [Moment τ]

theorem Network.mem_services_of_answer? {network : Network τ} {url : String} {answer : Answer τ}
    (hanswer : network.answer? url = some answer) :
    ∃ service ∈ network.services, answer ∈ service.2 := by
  unfold Network.answer? at hanswer
  obtain ⟨answers, hanswers, hfound⟩ := Option.bind_eq_some_iff.mp hanswer
  obtain ⟨service, hservice, rfl⟩ := Option.map_eq_some_iff.mp hanswers
  exact ⟨service, List.mem_of_find?_eq_some hservice, List.mem_of_find?_eq_some hfound⟩

/-- A scene but for its time. -/
def Scene.timeless (scene : Scene τ σ) : Scene τ σ :=
  { scene with network := { scene.network with now := 0 } }

theorem Scene.desk_eq_of_timeless {scene other : Scene τ σ}
    (hsame : scene.timeless = other.timeless) : scene.desk = other.desk := by
  have hdesk : scene.timeless.desk = other.timeless.desk := by rw [hsame]
  exact hdesk

/-- What comes of a request that is sent now. -/
def Network.reply (network : Network τ) (url : String) (timeout : Option τ) :
    Except (Failure τ) Response :=
  match network.answer? url with
  | none => .error (.other .connectionError (some ("refused: " ++ url)))
  | some answer =>
    if answer.isLate timeout then .error (.other .readTimeout (some ("timed out: " ++ url)))
    else match answer.failure with
      | some failure => .error failure
      | none => .ok ⟨url, answer.status, answer.reason, answer.body⟩

/-- The moment when a request that is sent now is over. -/
def Network.behind (network : Network τ) (url : String) (timeout : Option τ) : τ :=
  match network.answer? url with
  | none => network.now
  | some answer =>
    network.now + if answer.isLate timeout then timeout.getD 0 else answer.delay

/-- A request is seen, takes its time and has its reply; it changes nothing else. -/
theorem post_apply (url : String) (body : Value) (timeout : Option τ) (scene : Scene τ σ) :
    post url body timeout scene =
      ⟨scene.network.reply url timeout,
        { scene with network := { scene.network with now := scene.network.behind url timeout } },
        [.post url body timeout]⟩ := by
  simp only [post, PartnerAction.network, PartnerAction.pass, Network.reply, Network.behind,
    bind_apply, emit_apply, current_apply, pure_apply]
  cases scene.network.answer? url with
  | none => rfl
  | some answer =>
      dsimp only
      cases answer.isLate timeout with
      | true => rfl
      | false =>
          simp only [Bool.false_eq_true, if_false]
          cases answer.failure <;> rfl

theorem post_keeps (url : String) (body : Value) (timeout : Option τ) :
    Keeps Scene.timeless (post url body timeout : PartnerAction τ σ Response) := by
  intro scene
  rw [post_apply]
  rfl

theorem servesGraphQL_keeps (endpoint : Endpoint) (timeout : Option τ) :
    Keeps Scene.timeless (servesGraphQL endpoint timeout : PartnerAction τ σ Bool) := by
  rw [servesGraphQL_eq]
  have hprobe : Keeps Scene.timeless
      (post endpoint.url probeBody timeout >>= readProbe : PartnerAction τ σ Value) :=
    (post_keeps _ _ _).bind readProbe_keeps
  exact hprobe.attempt.bind (judgeProbe_keeps endpoint)

/-- Only the request of a probe leaves a trace in the scene. -/
theorem servesGraphQL_state (endpoint : Endpoint) (timeout : Option τ) (scene : Scene τ σ) :
    (servesGraphQL endpoint timeout scene).state =
      (post endpoint.url probeBody timeout scene).state := by
  have hjudge (probed : Except (Failure τ) Value) :
      Keeps id (judgeProbe endpoint probed : PartnerAction τ σ Bool) :=
    judgeProbe_keeps endpoint probed
  have hread (response : Response) :
      Keeps id (readProbe response : PartnerAction τ σ Value) :=
    readProbe_keeps response
  rw [servesGraphQL_eq]
  exact (view_bind hjudge _ scene).trans (view_bind hread _ scene)

theorem probePaths_keeps (timeout : Option τ) (deadline : τ) (address : SocketAddress)
    (paths : List Value) :
    Keeps Scene.timeless (probePaths timeout deadline address paths : PartnerAction τ σ _) := by
  induction paths with
  | nil => exact keeps_pure _
  | cons path rest ih =>
      unfold probePaths
      refine now_keeps.bind fun now => ?_
      dsimp only
      split
      · exact keeps_pure _
      · refine (requirePath_keeps _).bind fun _ => (requireEndpoint_keeps _).bind fun endpoint => ?_
        split
        · exact keeps_raise _
        · refine (servesGraphQL_keeps _ _).bind fun served => ?_
          split
          · exact keeps_pure _
          · exact ih

/-- Probing a port changes nothing but the time. -/
theorem probePort_keeps (plan : ProbePlan τ) (deadline : τ) (addresses : List SocketAddress) :
    Keeps Scene.timeless (probePort plan deadline addresses : PartnerAction τ σ _) := by
  induction addresses with
  | nil => exact keeps_pure _
  | cons address rest ih =>
      unfold probePort
      refine (probePaths_keeps _ _ _ _).bind fun found => ?_
      split
      · exact keeps_pure _
      · exact ih

end Probing

end SubgraphLauncher
