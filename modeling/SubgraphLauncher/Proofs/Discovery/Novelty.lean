import SubgraphLauncher.Proofs.Discovery.Turn
import SubgraphLauncher.Proofs.Scanning.Fresh
import SubgraphLauncher.Proofs.Scanning.Listing

/-!
# A discovery takes nothing but what is new

With a scanner of sockets, a discovery notes the endpoints on all sockets that the host lists before
the launch, which posts to none. Every scan posts to fresh endpoints and finds fresh ones, of
origins that none of those has; and an endpoint that is found lives on some socket. So what one
discovery has found is never found by another one before which its socket is listed, under any path.

A socket that the host does not list is not noted. Where the host refuses the question for all
processes together, the sockets of a process that cannot be looked at are of this kind, and if they
are listed later on they are taken for new: `discover_takes_unlisted`.
-/

namespace SubgraphLauncher

open SubgraphLauncher.Action RunnerAction

variable {τ σ : Type}

/-! ### The requests of scans -/

/-- The events of the runner itself. -/
def Event.IsOwn : Event τ → Prop
  | .partner _ => False
  | _ => True

/-- The URL that an event posts to. -/
def Event.postedUrl? : Event τ → Option String
  | .partner (.post url _ _) => some url
  | _ => none

/-- Whether the scanner is at work after an event: a survey or a scan begins with its announcement
and is over with the next event of the runner. -/
def Event.scanningAfter (scanning : Bool) : Event τ → Bool
  | .surveyed | .scanned _ => true
  | .partner _ => scanning
  | _ => false

/-- The URLs that are posted to while the scanner is at work. -/
def probedUrls (scanning : Bool) : List (Event τ) → List String
  | [] => []
  | event :: rest =>
    (if scanning then event.postedUrl?.toList else []) ++
      probedUrls (event.scanningAfter scanning) rest

theorem mem_probedUrls {scanning : Bool} {events : List (Event τ)} {url : String}
    (hmem : url ∈ probedUrls scanning events) :
    ∃ event ∈ events, event.postedUrl? = some url := by
  induction events generalizing scanning with
  | nil => cases hmem
  | cons event rest ih =>
      rw [probedUrls, List.mem_append] at hmem
      rcases hmem with hhere | hlater
      · split at hhere
        · exact ⟨event, List.mem_cons_self, Option.mem_toList.mp hhere⟩
        · cases hhere
      · obtain ⟨found, hfound, hposted⟩ := ih hlater
        exact ⟨found, List.mem_cons_of_mem event hfound, hposted⟩

/-- Where the scanner is never set to work, nothing is probed. -/
theorem probedUrls_eq_nil {events : List (Event τ)}
    (hnone : ∀ event ∈ events, event.scanningAfter false = false) :
    probedUrls false events = [] := by
  induction events with
  | nil => rfl
  | cons event rest ih =>
      obtain ⟨hevent, hrest⟩ := List.forall_mem_cons.mp hnone
      rw [probedUrls, hevent, ih hrest]
      rfl

/-- What begins with the runner itself is not the work of a scanner before it. -/
theorem probedUrls_append {before after : List (Event τ)}
    (hown : ∀ event ∈ after.head?, event.IsOwn) (scanning : Bool) :
    probedUrls scanning (before ++ after) =
      probedUrls scanning before ++ probedUrls false after := by
  induction before generalizing scanning with
  | nil =>
      cases after with
      | nil => rfl
      | cons event rest =>
          have hevent := hown event rfl
          cases event <;> first | exact hevent.elim | (cases scanning <;> rfl)
  | cons event rest ih =>
      rw [List.cons_append, probedUrls, ih, probedUrls, List.append_assoc]

/-! ### Actions whose scanner keeps to what it may -/

/-- Whatever comes of an action, it begins with the runner itself, its scanner posts to endpoints of
a kind only, and its result, if it has one, is of another kind. -/
def Probes {α : Type} (may : Endpoint → Prop) (yields : α → Prop) (x : RunnerAction τ σ α) : Prop :=
  ∀ world, (∀ event ∈ (x world).events.head?, event.IsOwn) ∧
    (∀ url ∈ probedUrls false (x world).events,
      ∃ endpoint : Endpoint, endpoint.url = url ∧ may endpoint) ∧
    ∀ a, (x world).result = .ok a → yields a

section Probes

variable {α β : Type} {may : Endpoint → Prop} {yields : α → Prop} {yields' : β → Prop}

theorem Probes.bind {x : RunnerAction τ σ α} {f : α → RunnerAction τ σ β}
    (hx : Probes may yields x) (hf : ∀ a, yields a → Probes may yields' (f a)) :
    Probes may yields' (x >>= f) := by
  intro world
  obtain ⟨hown, hposts, hresult⟩ := hx world
  rw [bind_apply]
  cases hcase : (x world).result with
  | error failure => exact ⟨hown, hposts, fun b hb => by cases hb⟩
  | ok a =>
      obtain ⟨hown', hposts', hresult'⟩ := hf a (hresult a hcase) (x world).state
      refine ⟨fun event hevent => ?_, ?_, hresult'⟩
      · rw [List.head?_append, Option.mem_def, Option.or_eq_some_iff] at hevent
        rcases hevent with hfirst | ⟨-, hlater⟩
        · exact hown event hfirst
        · exact hown' event hlater
      · dsimp only
        rw [probedUrls_append hown']
        exact List.forall_mem_append.mpr ⟨hposts, hposts'⟩

/-- An action that is the runner's own, and sets no scanner to work. -/
theorem Probes.of_shows {seen : Event τ → Prop} {x : RunnerAction τ σ α} (hx : Shows seen yields x)
    (hseen : ∀ event, seen event → event.IsOwn ∧ event.scanningAfter false = false) :
    Probes may yields x := by
  intro world
  obtain ⟨hevents, hresult⟩ := hx world
  refine ⟨fun event hevent => ?_, ?_, hresult⟩
  · exact (hseen event (hevents event (List.mem_of_mem_head? hevent))).1
  · rw [probedUrls_eq_nil fun event hevent => (hseen event (hevents event hevent)).2]
    exact List.forall_mem_nil _

/-- What is announced by the runner posts where its action may. -/
theorem Probes.announced {announcement : Event τ} (hown : announcement.IsOwn)
    {action : PartnerAction τ σ α} {f : α → RunnerAction τ σ β}
    (haction : Shows (PartnerEvent.PostsTo may) yields action)
    (hf : ∀ a, yields a → Probes may yields' (f a)) :
    Probes may yields' (do
      Action.emit announcement
      let a ← consult action
      f a) := by
  have hscan : Probes may yields (do
      Action.emit announcement
      consult action) := by
    intro world
    obtain ⟨hevents, hresult⟩ := haction world.scene
    refine ⟨?_, ?_, hresult⟩
    · rintro event ⟨⟩
      exact hown
    · intro url hurl
      obtain ⟨event, hevent, hposted⟩ := mem_probedUrls hurl
      rcases List.mem_cons.mp hevent with rfl | hpartner
      · cases event <;> first | exact hown.elim | cases hposted
      · obtain ⟨partner, hmem, rfl⟩ := List.mem_map.mp hpartner
        have hmay := hevents partner hmem
        cases partner <;> first | (cases hposted; exact hmay) | cases hposted
  rw [← bind_assoc]
  exact hscan.bind hf

end Probes

/-! ### Searches -/

section Search

variable [Moment τ] {may : Endpoint → Prop}

theorem pick_probes (chooser : Chooser τ σ) (candidates : List Endpoint) :
    Probes may (fun picked => ∀ endpoint, picked = some endpoint → endpoint ∈ candidates)
      (pick chooser candidates) := by
  intro world
  obtain ⟨hevents, hresult⟩ := pick_shows chooser candidates world
  have hquiet : probedUrls false (pick chooser candidates world).events = [] := by
    refine probedUrls_eq_nil fun event hmem => ?_
    have hchoice := hevents event hmem
    cases event <;> first | rfl | exact hchoice.elim
  refine ⟨?_, by rw [hquiet]; exact List.forall_mem_nil _, hresult⟩
  by_cases hseveral : 2 ≤ candidates.length
  · rw [pick_several chooser hseveral world]
    rintro event ⟨⟩
    trivial
  · rw [pick_few chooser hseveral world]
    intro event hevent
    cases hevent

omit [Moment τ] in
theorem Probes.of_rest {α : Type} {yields : α → Prop} {x : RunnerAction τ σ α}
    (hx : Shows Event.IsOfRest yields x) : Probes may yields x := by
  refine Probes.of_shows hx fun event hevent => ?_
  cases event <;> first | exact hevent.elim | exact ⟨trivial, rfl⟩

theorem scanThen_probes (setup : RunnerSetup τ σ) {scanner : Scanner τ σ} (name : String)
    {baseline : List Endpoint} (started : τ) {again : τ → RunnerAction τ σ Endpoint}
    (hscan : Shows (PartnerEvent.PostsTo may) (fun found => ∀ endpoint ∈ found, may endpoint)
      (scanner.scan baseline))
    (hagain : ∀ duration, Probes may may (again duration)) :
    Probes may may (scanThen setup scanner name baseline started again) := by
  unfold scanThen
  have hown : (Event.scanned baseline : Event τ).IsOwn := trivial
  refine Probes.announced hown hscan fun candidates hcandidates => ?_
  refine (pick_probes setup.chooser candidates).bind fun picked hpicked => ?_
  cases picked with
  | some endpoint =>
      have hfound := hcandidates endpoint (hpicked endpoint rfl)
      exact .of_rest (Shows.seq (shows_emit trivial) fun _ => shows_pure hfound)
  | none =>
      refine (Probes.of_rest (remainingTime_shows _ _)).bind fun remaining _ => ?_
      split
      · exact .of_rest (timeOut_shows setup name)
      · exact (Probes.of_rest (nextPause_shows _ _)).bind fun duration _ => hagain duration

/-- Where every scan of the scanner keeps to endpoints of a kind, the whole search does. -/
theorem search_probes (setup : RunnerSetup τ σ) {scanner : Scanner τ σ} (name : String)
    {baseline : List Endpoint} (started : τ) (pauses : Nat)
    (hscan : Shows (PartnerEvent.PostsTo may) (fun found => ∀ endpoint ∈ found, may endpoint)
      (scanner.scan baseline)) :
    Probes may may (search setup scanner name baseline started pauses) := by
  induction pauses with
  | zero =>
      refine scanThen_probes setup name started hscan fun duration => ?_
      exact .of_rest ((pause_shows duration false).seq fun _ => shows_raise _)
  | succ pauses ih =>
      refine scanThen_probes setup name started hscan fun duration => ?_
      exact (Probes.of_rest (pause_shows duration true)).bind fun _ _ => ih

end Search

/-! ### What is noted before the launch -/

section Survey

variable [Moment τ]

/-- A survey that has a result holds the root of every address that the host lists. -/
theorem surveySockets_complete {scene : Scene τ σ} {here : List Endpoint}
    (hhere : (surveySockets scene).result = .ok here) {address : SocketAddress}
    (hlists : scene.network.Lists address) :
    ∃ root ∈ here, Endpoint.ofSocket address.ip address.port "/" = .ok root := by
  obtain ⟨heard, hheard, hrest⟩ := result_bind hhere
  obtain ⟨roots, hroots, hwhole⟩ := result_bind hrest
  have haddress : address ∈ heard := ((mem_of_heard hheard).2 address).mpr hlists
  obtain ⟨root, hroot, _, hresult⟩ := mem_result_mapM hroots haddress
  rw [← Except.ok.inj hwhole]
  refine ⟨root, List.mem_eraseDups.mpr hroot, ?_⟩
  exact requireEndpoint_result hresult

end Survey

/-! ### Discoveries -/

section Discovery

variable [Moment τ]

/-- An endpoint on some socket, whose origin is neither that of a known endpoint nor that of any
endpoint on a socket that the host lists. -/
structure Endpoint.IsNew (known : List Endpoint) (network : Network τ) (endpoint : Endpoint) :
    Prop where
  placed : ∃ address, endpoint.IsOn address
  rooted : endpoint.origin.isOk = true
  unknown : ∀ other ∈ known, other.origin ≠ endpoint.origin
  unlisted : ∀ address, network.Lists address → ∀ other : Endpoint, other.IsOn address →
    other.origin ≠ endpoint.origin

theorem mem_baselineOf {here known : List Endpoint} {endpoint : Endpoint} :
    endpoint ∈ baselineOf here known ↔ endpoint ∈ here ∨ endpoint ∈ known := by
  rw [baselineOf, Endpoint.sort, List.mem_mergeSort, List.mem_eraseDups, List.mem_append]

/-- What is fresh for a scan is new for the discovery, if the baseline holds what the host lists. -/
theorem Endpoint.IsFresh.isNew {here known : List Endpoint} {network : Network τ}
    (hhere : ∀ address, network.Lists address →
      ∃ root ∈ here, Endpoint.ofSocket address.ip address.port "/" = .ok root)
    {endpoint : Endpoint} (hfresh : endpoint.IsFresh (baselineOf here known)) :
    endpoint.IsNew known network := by
  obtain ⟨hplaced, origin, horigin, hother⟩ := hfresh
  refine ⟨hplaced, by rw [horigin]; rfl, fun other hknown => ?_, ?_⟩
  · rw [horigin]
    exact hother other (mem_baselineOf.mpr (.inr hknown))
  · rintro address hlists other ⟨path, hpath⟩
    obtain ⟨root, hroot, hsocket⟩ := hhere address hlists
    rw [horigin, Endpoint.origin_ofSocket hpath, ← Endpoint.origin_ofSocket hsocket]
    exact hother root (mem_baselineOf.mpr (.inl hroot))

/-- The survey is made before anything else. -/
theorem survey_of_prepared {setup : RunnerSetup τ σ} {scanner : Scanner τ σ} {name line : String}
    {world : World τ σ} {here : List Endpoint}
    (hprepared : (prepare setup scanner name line world).result = .ok here) :
    (scanner.survey world.scene).result = .ok here := by
  obtain ⟨_, _, hrest⟩ := result_bind hprepared
  obtain ⟨found, hfound, hlaunch⟩ := result_bind hrest
  obtain ⟨_, _, hwhole⟩ := result_bind hlaunch
  rw [← Except.ok.inj hwhole]
  exact hfound

/-- A survey of the sockets posts to nothing, and a launch sets no scanner to work. -/
theorem prepare_probes (setup : RunnerSetup τ σ) (plan : ProbePlan τ) (cursor : Slot σ Nat)
    (name line : String) {may : Endpoint → Prop} :
    Probes may (fun _ => True) (prepare setup (Scanner.ofSockets plan cursor) name line) := by
  unfold prepare
  have hown : (Event.surveyed : Event τ).IsOwn := trivial
  refine Probes.announced hown surveySockets_shows fun here _ => ?_
  have hspawn : Probes may (fun _ => True) (spawn setup name line) := by
    refine Probes.of_shows (spawn_shows setup name line) fun event hevent => ?_
    cases event <;> first | exact hevent.elim | exact ⟨trivial, rfl⟩
  exact hspawn.bind fun _ _ => .of_rest (shows_pure trivial)

theorem discover_takes_new (setup : RunnerSetup τ σ) (plan : ProbePlan τ) (cursor : Slot σ Nat)
    (name line : String) (known : List Endpoint) (world : World τ σ) :
    let discovery := discover setup (Scanner.ofSockets plan cursor) name line known world
    (∀ url ∈ probedUrls false discovery.events,
      ∃ endpoint : Endpoint, endpoint.url = url ∧ endpoint.IsNew known world.scene.network) ∧
    ∀ endpoint, discovery.result = .ok endpoint → endpoint.IsNew known world.scene.network := by
  let scanner : Scanner τ σ := Scanner.ofSockets plan cursor
  have hprepare : Probes (Endpoint.IsNew known world.scene.network) (fun _ => True)
      (prepare setup scanner name line) := prepare_probes setup plan cursor name line
  obtain ⟨-, hquiet, -⟩ := hprepare world
  dsimp only
  change (∀ url ∈ probedUrls false (discover setup scanner name line known world).events, _) ∧
    ∀ endpoint, (discover setup scanner name line known world).result = _ → _
  rw [discover_eq, bind_apply]
  cases hprepared : (prepare setup scanner name line world).result with
  | error failure => exact ⟨hquiet, fun endpoint hresult => by cases hresult⟩
  | ok here =>
      have hnew {endpoint : Endpoint} (hfresh : endpoint.IsFresh (baselineOf here known)) :
          endpoint.IsNew known world.scene.network :=
        hfresh.isNew fun address hlists =>
          surveySockets_complete (survey_of_prepared hprepared) hlists
      have hscan : Shows (PartnerEvent.PostsTo (Endpoint.IsFresh (baselineOf here known)))
          (fun found => ∀ endpoint ∈ found, endpoint.IsFresh (baselineOf here known))
          (scanner.scan (baselineOf here known)) :=
        scanSockets_shows plan cursor (baselineOf here known)
      have hsearch : Probes (Endpoint.IsFresh (baselineOf here known))
          (Endpoint.IsFresh (baselineOf here known)) (do
            let launched ← current
            search setup scanner name (baselineOf here known) launched.scene.network.now
              launched.patience.pauses) :=
        (Probes.of_rest shows_current).bind fun launched _ => search_probes setup name _ _ hscan
      obtain ⟨hown, hposts, hresult⟩ := hsearch (prepare setup scanner name line world).state
      refine ⟨?_, fun endpoint hfound => hnew (hresult endpoint hfound)⟩
      dsimp only
      rw [probedUrls_append hown]
      refine List.forall_mem_append.mpr ⟨hquiet, fun url hurl => ?_⟩
      obtain ⟨endpoint, hendpoint, hfresh⟩ := hposts url hurl
      exact ⟨endpoint, hendpoint, hnew hfresh⟩

/-- A discovery with a scanner of sockets takes only what is new to the endpoints that it knows and
to the sockets that the host lists before it: its scanner posts to nothing else, and nothing else is
found. And whatever any discovery has found is on a socket, and while a host lists that socket, no
discovery that begins there finds anything of the same origin, let alone on the same socket. -/
theorem discover_novel (setup : RunnerSetup τ σ) (plan : ProbePlan τ) (cursor : Slot σ Nat)
    (name line : String) (known : List Endpoint) (world : World τ σ) :
    let discovery := discover setup (Scanner.ofSockets plan cursor) name line known world
    (∀ url ∈ probedUrls false discovery.events,
      ∃ endpoint : Endpoint, endpoint.url = url ∧ endpoint.IsNew known world.scene.network) ∧
    (∀ endpoint, discovery.result = .ok endpoint → endpoint.IsNew known world.scene.network) ∧
    ∀ earlier, discovery.result = .ok earlier →
      (∃ address, earlier.IsOn address) ∧
      ∀ (setup' : RunnerSetup τ σ) (plan' : ProbePlan τ) (cursor' : Slot σ Nat)
        (name' line' : String) (known' : List Endpoint) (world' : World τ σ) (later : Endpoint),
        (discover setup' (Scanner.ofSockets plan' cursor') name' line' known' world').result =
          .ok later →
        ∀ address, earlier.IsOn address → world'.scene.network.Lists address →
          later.origin ≠ earlier.origin ∧ ¬ later.IsOn address := by
  obtain ⟨hprobed, hfound⟩ := discover_takes_new setup plan cursor name line known world
  refine ⟨hprobed, hfound, fun earlier hearlier => ⟨(hfound earlier hearlier).placed, ?_⟩⟩
  intro setup' plan' cursor' name' line' known' world' later hlater address hon hlists
  have hnew := (discover_takes_new setup' plan' cursor' name' line' known' world').2 later hlater
  refine ⟨fun hsame => hnew.unlisted address hlists earlier hon hsame.symm, fun hon' => ?_⟩
  exact hnew.unlisted address hlists later hon' rfl

end Discovery

/-- A socket that accepts connections from a moment on. -/
def openSocket (start : Option Rat) : Socket Rat :=
  ⟨some "127.0.0.1", 4000, listenStatus, start, none⟩

/-- A host that lists sockets by process only. One process cannot be looked at; another one takes up
its socket as well, but later. -/
def sharedWorld : World Rat Nat where
  scene := ⟨⟨0, [openSocket none], true,
    [⟨7, [openSocket none], some .denied, none, none⟩,
      ⟨8, [openSocket (some 1)], none, none, none⟩],
    false,
    [("http://127.0.0.1:4000/",
      [⟨200, "OK", "\x7b\"data\": \x7b\"__typename\": \"Query\"\x7d\x7d", 0, false, none, none,
        none⟩])]⟩, 0⟩
  processes := ⟨[], [], 5, [], [], "linux", true⟩
  patience := ⟨none, 5⟩
  paused := 0
  registry := Registry.empty

def rootScanner : Scanner Rat Nat :=
  Scanner.ofSockets ⟨some (1 / 2), [.text "/"], some (3 / 4)⟩ ⟨id, fun cursor _ => cursor⟩

def patientSetup : RunnerSetup Rat Nat where
  notifier := ⟨fun _ => pure ()⟩
  chooser := ⟨fun _ => pure 0⟩
  isInstalled _ := true
  timeout := some 2
  interval := some 1

/-- A socket that accepts connections before the launch, but of a process that cannot be looked at,
is taken for new once another process shows it. -/
theorem discover_takes_unlisted :
    (∃ process ∈ sharedWorld.scene.network.running, ∃ socket ∈ process.sockets,
      socket.address? sharedWorld.scene.network.now = some ⟨"127.0.0.1", 4000⟩) ∧
    ∃ endpoint, (Endpoint.ofSocket "127.0.0.1" 4000 "/").toOption = some endpoint ∧
      (discover patientSetup rootScanner "a" "srv" [] sharedWorld).result.toOption =
        some endpoint := by
  refine ⟨?_, ⟨"http://127.0.0.1:4000/", by rfl⟩, by decide +kernel, by decide +kernel⟩
  refine ⟨⟨7, [openSocket none], some .denied, none, none⟩, List.mem_cons_self, openSocket none, ?_⟩
  exact ⟨List.mem_cons_self, rfl⟩

end SubgraphLauncher
