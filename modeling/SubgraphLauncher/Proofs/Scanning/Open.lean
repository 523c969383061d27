import SubgraphLauncher.Proofs.Scanning.Scans

/-!
# Which addresses a scan may probe

An address is covered if a known endpoint has the origin of its own endpoints. Every endpoint has an
origin, so nothing is in the way of comparing them: where the listening addresses are heard and
there are URLs on them, the addresses that a scan may probe are those that are not covered.
-/

namespace SubgraphLauncher

open SubgraphLauncher.Action

variable {τ σ : Type}

/-- An endpoint on the address has the origin of a known one. -/
def SocketAddress.IsCovered (known : List Endpoint) (address : SocketAddress) : Prop :=
  ∃ endpoint : Endpoint, endpoint.IsOn address ∧ ∃ other ∈ known, endpoint.origin = other.origin

/-- All endpoints have origins, so those of some endpoints are found out. -/
theorem originsOf_result (known : List Endpoint) (scene : Scene τ σ) :
    ∃ origins, (originsOf known scene).result = .ok origins ∧
      ∀ origin, origin ∈ origins ↔ ∃ other ∈ known, other.origin = .ok origin := by
  induction known generalizing scene with
  | nil => exact ⟨[], rfl, by simp⟩
  | cons endpoint rest ih =>
      obtain ⟨first, hfirst⟩ := endpoint.exists_origin
      obtain ⟨origins, horigins, hmem⟩ := ih scene
      refine ⟨first :: origins, ?_, fun origin => ?_⟩
      · rw [originsOf, hfirst, requireEndpoint, pure_bind, bind_apply, horigins]
        rfl
      · simp only [List.mem_cons, hmem, exists_eq_or_imp, hfirst, Except.ok.injEq]
        rw [eq_comm]

theorem requireEndpoint_events (endpoint? : Except EndpointFault Endpoint) (scene : Scene τ σ) :
    (requireEndpoint endpoint? scene).events = [] := by
  cases endpoint? <;> rfl

theorem originsOf_events (known : List Endpoint) (scene : Scene τ σ) :
    (originsOf known scene).events = [] := by
  induction known generalizing scene with
  | nil => rfl
  | cons endpoint rest ih =>
      unfold originsOf
      rw [events_bind fun origin later => ?_]
      · exact requireEndpoint_events _ scene
      · rw [events_bind fun _ _ => rfl]
        exact ih later

theorem uncovered_events (origins : List Endpoint) (heard : List SocketAddress)
    (scene : Scene τ σ) : (uncovered origins heard scene).events = [] := by
  induction heard generalizing scene with
  | nil => rfl
  | cons address rest ih =>
      unfold uncovered
      rw [events_bind fun endpoint later => ?_]
      · exact requireEndpoint_events _ scene
      · rw [events_bind fun origin last => ?_]
        · exact requireEndpoint_events _ later
        · rw [events_bind fun _ _ => rfl]
          exact ih last

/-- What has come to a result was not stopped by an address without URLs. -/
theorem hasUrls_of_uncovered {origins : List Endpoint} {heard left : List SocketAddress}
    {scene : Scene τ σ} (hleft : (uncovered origins heard scene).result = .ok left) :
    ∀ address ∈ heard, address.HasUrls := by
  induction heard generalizing scene left with
  | nil => exact List.forall_mem_nil _
  | cons address rest ih =>
      unfold uncovered at hleft
      obtain ⟨root, hroot, hleft⟩ := result_bind hleft
      obtain ⟨origin, -, hleft⟩ := result_bind hleft
      obtain ⟨more, hmore, -⟩ := result_bind hleft
      refine List.forall_mem_cons.mpr ⟨address.hasUrls_iff.mpr ?_, ih hmore⟩
      rw [requireEndpoint_result hroot]
      rfl

/-- Where there are URLs, what is left are the addresses of other origins. -/
theorem uncovered_result (origins : List Endpoint) {heard : List SocketAddress}
    (hurls : ∀ address ∈ heard, address.HasUrls) (scene : Scene τ σ) :
    ∃ left, (uncovered origins heard scene).result = .ok left ∧
      ∀ address, address ∈ left ↔ address ∈ heard ∧ address.IsLeft origins := by
  induction heard generalizing scene with
  | nil => exact ⟨[], rfl, by simp⟩
  | cons address rest ih =>
      obtain ⟨haddress, hrest⟩ := List.forall_mem_cons.mp hurls
      obtain ⟨root, hroot⟩ := haddress "/"
      obtain ⟨origin, horigin⟩ := root.exists_origin
      obtain ⟨more, hmore, hmem⟩ := ih hrest scene
      have hleft : address.IsLeft origins ↔ origin ∉ origins := by
        constructor
        · intro ⟨root', origin', hroot', horigin', hnot⟩
          rw [hroot] at hroot'
          cases hroot'
          rw [horigin] at horigin'
          cases horigin'
          exact hnot
        · exact fun hnot => ⟨root, origin, hroot, horigin, hnot⟩
      refine ⟨if origins.contains origin then more else address :: more, ?_, fun other => ?_⟩
      · rw [uncovered, hroot, requireEndpoint, pure_bind, horigin, requireEndpoint, pure_bind,
          bind_apply, hmore]
        rfl
      · by_cases hknown : origin ∈ origins
        · have hcontains : origins.contains origin = true := by simpa using hknown
          rw [if_pos hcontains, hmem, List.mem_cons, or_and_right]
          refine ⟨.inr, fun hother => hother.resolve_left ?_⟩
          rintro ⟨rfl, hfree⟩
          exact hleft.mp hfree hknown
        · have hcontains : origins.contains origin = false := by simpa using hknown
          rw [hcontains]
          simp only [Bool.false_eq_true, if_false, List.mem_cons, hmem]
          constructor
          · rintro (rfl | ⟨hlater, hother⟩)
            · exact ⟨.inl rfl, hleft.mpr hknown⟩
            · exact ⟨.inr hlater, hother⟩
          · rintro ⟨rfl | hlater, hother⟩
            · exact .inl rfl
            · exact .inr ⟨hlater, hother⟩

/-- The addresses of other origins are those that are not covered. -/
theorem SocketAddress.isLeft_iff {known origins : List Endpoint} {address : SocketAddress}
    (horigins : ∀ origin, origin ∈ origins ↔ ∃ other ∈ known, other.origin = .ok origin)
    (hurls : address.HasUrls) : address.IsLeft origins ↔ ¬ address.IsCovered known := by
  obtain ⟨root, hroot⟩ := hurls "/"
  obtain ⟨origin, horigin⟩ := root.exists_origin
  have hsame {endpoint : Endpoint} (hon : endpoint.IsOn address) :
      endpoint.origin = .ok origin := by
    obtain ⟨path, hpath⟩ := hon
    rw [Endpoint.origin_ofSocket hpath, ← Endpoint.origin_ofSocket hroot, horigin]
  constructor
  · intro hleft hcovered
    obtain ⟨root', origin', hroot', horigin', hnot⟩ := hleft
    obtain ⟨endpoint, hon, other, hother, hshared⟩ := hcovered
    refine hnot ((horigins origin').mpr ⟨other, hother, ?_⟩)
    rw [← hshared, hsame hon, ← hsame ⟨"/", hroot'⟩, horigin']
  · intro hfree
    refine ⟨root, origin, hroot, horigin, fun hmem => hfree ?_⟩
    obtain ⟨other, hother, hshared⟩ := (horigins origin).mp hmem
    exact ⟨root, ⟨"/", hroot⟩, other, hother, horigin.trans hshared.symm⟩

section Listing

variable [Moment τ] {heard : List SocketAddress}

/-- Where the listening addresses are heard and there are URLs on them, a scan finds out the
addresses that are not covered. -/
theorem openAddresses_result (scan : Scan τ σ)
    (hheard : (listening scan.scene).result = .ok heard)
    (hurls : ∀ address ∈ heard, address.HasUrls) :
    ∃ addresses, (openAddresses scan.known scan.scene).result = .ok addresses ∧
      ∀ address, address ∈ addresses ↔ address ∈ heard ∧ ¬ address.IsCovered scan.known := by
  obtain ⟨origins, hknown, horigins⟩ := originsOf_result scan.known scan.scene
  obtain ⟨left, hleft, hmem⟩ := uncovered_result origins hurls scan.scene
  refine ⟨left, ?_, fun address => ?_⟩
  · rw [openAddresses, bind_apply, hknown, originsOf_state]
    dsimp only
    rw [bind_apply, hheard, listening_state]
    exact hleft
  · rw [hmem]
    exact and_congr_right fun haddress =>
      SocketAddress.isLeft_iff horigins (hurls address haddress)

theorem Scan.mem_addresses (scan : Scan τ σ) (hheard : (listening scan.scene).result = .ok heard)
    (hurls : ∀ address ∈ heard, address.HasUrls) (address : SocketAddress) :
    address ∈ scan.addresses ↔ address ∈ heard ∧ ¬ address.IsCovered scan.known := by
  obtain ⟨addresses, hopen, hmem⟩ := openAddresses_result scan hheard hurls
  rw [Scan.addresses, hopen]
  exact hmem address

/-- Where the listening addresses are heard, a scan finds out the open ones just if there are URLs
on all of them. -/
theorem openAddresses_returns_iff (scan : Scan τ σ)
    (hheard : (listening scan.scene).result = .ok heard) :
    (∃ addresses, (openAddresses scan.known scan.scene).result = .ok addresses) ↔
      ∀ address ∈ heard, address.HasUrls := by
  constructor
  · intro ⟨addresses, hopen⟩
    obtain ⟨origins, -, hopen⟩ := result_bind hopen
    obtain ⟨again, hagain, hleft⟩ := result_bind hopen
    rw [originsOf_state, hheard] at hagain
    obtain rfl := Except.ok.inj hagain
    exact hasUrls_of_uncovered hleft
  · intro hurls
    obtain ⟨addresses, hopen, -⟩ := openAddresses_result scan hheard hurls
    exact ⟨addresses, hopen⟩

/-- Only the listing is seen of it. -/
theorem openAddresses_events (known : List Endpoint) (scene : Scene τ σ) :
    (openAddresses known scene).events = (listening scene).events := by
  obtain ⟨origins, hknown, -⟩ := originsOf_result known scene
  rw [openAddresses, bind_apply, hknown, originsOf_state, originsOf_events]
  exact events_bind (uncovered_events origins) listening scene

end Listing

end SubgraphLauncher
