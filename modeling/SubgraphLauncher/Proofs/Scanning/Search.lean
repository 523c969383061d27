import SubgraphLauncher.Proofs.Scanning.Answers
import SubgraphLauncher.Proofs.Scanning.Open

/-!
# What a scan is to find

On every port where a GraphQL server answers there is one endpoint that stands for it: it is on the
address that is preferred to all others where a server answers, and under the first path that is
answered there. Going through the addresses of a port in the order of preference, and on each
address through the paths, comes to that endpoint.
-/

namespace SubgraphLauncher

variable {τ : Type}

/-! ### The first of a list -/

section FirstOf

variable {α β : Type} {leads : α → β → Prop} {a : α} {b c : β} {xs : List α}

/-- To this leads the first element of a list that leads to anything. -/
def FirstOf (leads : α → β → Prop) (xs : List α) (b : β) : Prop :=
  ∃ front a back, xs = front ++ a :: back ∧ leads a b ∧ ∀ earlier ∈ front, ∀ c, ¬ leads earlier c

theorem not_firstOf_nil : ¬ FirstOf leads [] b := by
  intro ⟨front, a, back, hsplit, _⟩
  simp at hsplit

theorem firstOf_cons_iff :
    FirstOf leads (a :: xs) b ↔ leads a b ∨ (∀ c, ¬ leads a c) ∧ FirstOf leads xs b := by
  constructor
  · intro ⟨front, first, back, hsplit, hleads, hearlier⟩
    cases front with
    | nil =>
        obtain ⟨rfl, -⟩ := List.cons.inj hsplit
        exact .inl hleads
    | cons other front =>
        obtain ⟨rfl, rfl⟩ := List.cons.inj hsplit
        obtain ⟨hother, hfront⟩ := List.forall_mem_cons.mp hearlier
        exact .inr ⟨hother, front, first, back, rfl, hleads, hfront⟩
  · intro hfirst
    rcases hfirst with hleads | ⟨hnone, front, first, back, rfl, hleads, hearlier⟩
    · exact ⟨[], a, xs, rfl, hleads, by simp⟩
    · exact ⟨a :: front, first, back, rfl, hleads, List.forall_mem_cons.mpr ⟨hnone, hearlier⟩⟩

theorem exists_firstOf (ha : a ∈ xs) (hleads : leads a b) : ∃ c, FirstOf leads xs c := by
  induction xs with
  | nil => cases ha
  | cons first rest ih =>
      simp only [firstOf_cons_iff]
      by_cases hfirst : ∃ c, leads first c
      · obtain ⟨c, hc⟩ := hfirst
        exact ⟨c, .inl hc⟩
      · have hnone : ∀ c, ¬ leads first c := fun c hc => hfirst ⟨c, hc⟩
        have hlater : a ∈ rest := by
          refine (List.mem_cons.mp ha).resolve_left fun heq => hnone b ?_
          rwa [← heq]
        obtain ⟨c, hc⟩ := ih hlater
        exact ⟨c, .inr ⟨hnone, hc⟩⟩

theorem FirstOf.exists_leads (hfirst : FirstOf leads xs b) : ∃ a ∈ xs, leads a b := by
  obtain ⟨front, a, back, rfl, hleads, -⟩ := hfirst
  exact ⟨a, by simp, hleads⟩

theorem FirstOf.unique (hleads : ∀ a b c, leads a b → leads a c → b = c)
    (hb : FirstOf leads xs b) (hc : FirstOf leads xs c) : b = c := by
  induction xs with
  | nil => exact absurd hb not_firstOf_nil
  | cons a rest ih =>
      rw [firstOf_cons_iff] at hb hc
      rcases hb with hb | ⟨hnone, hb⟩
      · rcases hc with hc | ⟨hnone, -⟩
        · exact hleads a b c hb hc
        · exact absurd hb (hnone b)
      · rcases hc with hc | ⟨-, hc⟩
        · exact absurd hc (hnone c)
        · exact ih hb hc

end FirstOf

/-! ### What is there to be found -/

/-- What a scan goes through: the addresses that are heard, but for those of known origins, with
some paths on them. A server has to answer within the limit. -/
structure Search (τ : Type) where
  network : Network τ
  limit : τ
  known : List Endpoint
  heard : List SocketAddress
  paths : List String

namespace Search

variable [Moment τ]

/-- The address may be probed for its port. -/
def IsOpen (search : Search τ) (port : Int) (address : SocketAddress) : Prop :=
  address ∈ search.heard ∧ ¬ address.IsCovered search.known ∧ address.port = port

/-- A GraphQL server answers under a path on an address. -/
def Serves (search : Search τ) (address : SocketAddress) (path : String) (endpoint : Endpoint) :
    Prop :=
  Endpoint.ofSocket address.ip address.port path = .ok endpoint ∧
    search.network.Confirms endpoint.url search.limit

/-- A GraphQL server answers on an address. -/
def Answers (search : Search τ) (address : SocketAddress) : Prop :=
  ∃ path ∈ search.paths, ∃ endpoint, search.Serves address path endpoint

/-- The endpoint is under the first path that a server answers on an address. -/
def LeadsTo (search : Search τ) (address : SocketAddress) (endpoint : Endpoint) : Prop :=
  FirstOf (search.Serves address) search.paths endpoint

/-- Of the addresses on a port where a server answers, the preferred one leads to the endpoint. -/
def IsFirst (search : Search τ) (port : Int) (endpoint : Endpoint) : Prop :=
  ∃ address, search.IsOpen port address ∧ search.LeadsTo address endpoint ∧
    ∀ other, search.IsOpen port other → search.Answers other → preferred address other

variable {search : Search τ} {port : Int} {endpoint : Endpoint}

omit [Moment τ] in
theorem mem_addressesOn_iff {addresses : List SocketAddress}
    (hopen : ∀ address,
      address ∈ addresses ↔ address ∈ search.heard ∧ ¬ address.IsCovered search.known)
    (port : Int) (address : SocketAddress) :
    address ∈ addressesOn addresses port ↔ search.IsOpen port address := by
  rw [mem_addressesOn, hopen, and_assoc]
  rfl

theorem Serves.unique {address : SocketAddress} {path : String} {endpoint other : Endpoint}
    (hserves : search.Serves address path endpoint) (hother : search.Serves address path other) :
    endpoint = other := by
  have hsame := hserves.1.symm.trans hother.1
  exact Except.ok.inj hsame

theorem LeadsTo.unique {address : SocketAddress} {endpoint other : Endpoint}
    (hleads : search.LeadsTo address endpoint) (hother : search.LeadsTo address other) :
    endpoint = other := by
  have hserves : ∀ path endpoint other, search.Serves address path endpoint →
      search.Serves address path other → endpoint = other :=
    fun _ _ _ hserves hserves' => hserves.unique hserves'
  exact FirstOf.unique hserves hleads hother

theorem answers_iff {address : SocketAddress} :
    search.Answers address ↔ ∃ endpoint, search.LeadsTo address endpoint := by
  constructor
  · intro ⟨path, hpath, endpoint, hserves⟩
    exact exists_firstOf hpath hserves
  · intro ⟨endpoint, hfirst⟩
    obtain ⟨path, hpath, hserves⟩ := FirstOf.exists_leads hfirst
    exact ⟨path, hpath, endpoint, hserves⟩

theorem isFirst_of_firstOf {addresses : List SocketAddress}
    (hsorted : addresses.Pairwise fun address other => preferred address other)
    (hopen : ∀ address, address ∈ addresses ↔ search.IsOpen port address)
    (hfirst : FirstOf search.LeadsTo addresses endpoint) : search.IsFirst port endpoint := by
  obtain ⟨front, address, back, rfl, hserves, hearlier⟩ := hfirst
  refine ⟨address, (hopen address).mp (by simp), hserves, fun other hother hanswers => ?_⟩
  obtain ⟨-, hbehind, -⟩ := List.pairwise_append.mp hsorted
  have hmem := (hopen other).mpr hother
  simp only [List.mem_append, List.mem_cons] at hmem
  rcases hmem with hfront | rfl | hback
  · obtain ⟨found, hfound⟩ := answers_iff.mp hanswers
    exact absurd hfound (hearlier other hfront found)
  · exact (preferred_total other other).elim id id
  · exact (List.pairwise_cons.mp hbehind).1 other hback

/-- Among the addresses of a port in the order of preference, the first that leads to an endpoint
leads to the first one on the port. -/
theorem firstOf_iff {addresses : List SocketAddress}
    (hsorted : addresses.Pairwise fun address other => preferred address other)
    (hopen : ∀ address, address ∈ addresses ↔ search.IsOpen port address) :
    FirstOf search.LeadsTo addresses endpoint ↔ search.IsFirst port endpoint := by
  refine ⟨isFirst_of_firstOf hsorted hopen, ?_⟩
  intro ⟨address, haddress, hserves, hpreferred⟩
  obtain ⟨found, hfound⟩ := exists_firstOf ((hopen address).mpr haddress) hserves
  obtain ⟨other, hother, hserves', hpreferred'⟩ := isFirst_of_firstOf hsorted hopen hfound
  obtain rfl : address = other :=
    eq_of_preferred (haddress.2.2.trans hother.2.2.symm)
      (hpreferred other hother (answers_iff.mpr ⟨found, hserves'⟩))
      (hpreferred' address haddress (answers_iff.mpr ⟨endpoint, hserves⟩))
  rwa [hserves.unique hserves']

/-- On every port where a server answers there is a first endpoint. -/
theorem exists_isFirst_iff {addresses : List SocketAddress}
    (hsorted : addresses.Pairwise fun address other => preferred address other)
    (hopen : ∀ address, address ∈ addresses ↔ search.IsOpen port address) :
    (∃ endpoint, search.IsFirst port endpoint) ↔
      ∃ address, search.IsOpen port address ∧ search.Answers address := by
  constructor
  · intro ⟨endpoint, address, haddress, hserves, _⟩
    exact ⟨address, haddress, answers_iff.mpr ⟨endpoint, hserves⟩⟩
  · intro ⟨address, haddress, hanswers⟩
    obtain ⟨endpoint, hserves⟩ := answers_iff.mp hanswers
    obtain ⟨found, hfound⟩ := exists_firstOf ((hopen address).mpr haddress) hserves
    exact ⟨found, (firstOf_iff hsorted hopen).mp hfound⟩

end Search

end SubgraphLauncher
