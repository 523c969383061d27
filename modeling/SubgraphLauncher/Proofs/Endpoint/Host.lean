import SubgraphLauncher.Partner.Basic
import SubgraphLauncher.Proofs.Scanning.Origin

/-!
# The host of an endpoint

A URL is accepted if it has a scheme and an authority. An authority is more than a host: a user may
be named in front of it and a port behind it, and each of them makes an authority by itself. So an
accepted URL names a host unless nothing but a port follows the user. Whatever is not accepted is
refused with a value error.
-/

namespace SubgraphLauncher

open SubgraphLauncher.Text (splitFirst)

namespace Url

/-- The host that an authority names: what stands behind the user and in front of the port, without
its brackets. -/
def hostOf (authority : List Char) : List Char :=
  match splitFirst '[' (afterUser authority) with
  | (_, some bracketed) => (splitFirst ']' bracketed).1
  | (hostAndPort, none) => (splitFirst ':' hostAndPort).1

/-- Behind the user of an authority there is nothing, or only a port. -/
def IsHostless (authority : List Char) : Prop :=
  afterUser authority = [] ∨ (afterUser authority).head? = some ':'

theorem splitFirst_fst_eq_nil_iff {mark : Char} {s : List Char} :
    (splitFirst mark s).1 = [] ↔ s = [] ∨ s.head? = some mark := by
  cases s with
  | nil => simp [splitFirst]
  | cons c rest =>
      by_cases hc : c = mark
      · simp [splitFirst, hc]
      · have hkept : (c != mark) = true := bne_iff_ne.mpr hc
        simp only [splitFirst, List.dropWhile_cons, List.takeWhile_cons, hkept, if_true]
        split <;> simp [hc]

theorem ne_nil_of_checkBracketed {host : List Char} (hchecked : checkBracketed host = .ok ()) :
    host ≠ [] := by
  rintro rfl
  revert hchecked
  decide

/-- An authority with a bracket passes only if its host does. -/
theorem checkHost_of_checkAuthority {authority : List Char}
    (hchecked : checkAuthority authority = .ok ()) (hopens : '[' ∈ authority) :
    checkHost (afterUser authority) = .ok () := by
  have hcontains : authority.contains '[' = true := by simpa using hopens
  unfold checkAuthority at hchecked
  rw [hcontains] at hchecked
  cases hhost : checkHost (afterUser authority) with
  | ok _ => rfl
  | error fault =>
      rw [hhost] at hchecked
      cases hcloses : authority.contains ']' <;> rw [hcloses] at hchecked <;> cases hchecked

/-- A host in brackets that passes begins with its bracket, and is not empty. -/
theorem of_checkHost {before bracketed : List Char} (hbefore : '[' ∉ before)
    (hchecked : checkHost (before ++ '[' :: bracketed) = .ok ()) :
    before = [] ∧ (splitFirst ']' bracketed).1 ≠ [] := by
  unfold checkHost at hchecked
  rw [Text.splitFirst_append hbefore] at hchecked
  dsimp only at hchecked
  split at hchecked
  · cases hchecked
  · next hempty =>
      refine ⟨by simpa using hempty, ?_⟩
      split at hchecked
      · next host port hsplit =>
          rw [hsplit]
          split at hchecked
          · exact ne_nil_of_checkBracketed hchecked
          · cases hchecked
      · next host hsplit =>
          rw [hsplit]
          exact ne_nil_of_checkBracketed hchecked

theorem mem_of_mem_afterUser {authority : List Char} {c : Char} (hc : c ∈ afterUser authority) :
    c ∈ authority := by
  rw [afterUser, List.mem_reverse] at hc
  exact List.mem_reverse.mp ((List.takeWhile_prefix _).subset hc)

/-- An authority that passes names a host unless at most a port follows the user. -/
theorem hostOf_eq_nil_iff {authority : List Char} (hchecked : checkAuthority authority = .ok ()) :
    hostOf authority = [] ↔ IsHostless authority := by
  unfold hostOf IsHostless
  by_cases hopens : '[' ∈ afterUser authority
  · have hhost := checkHost_of_checkAuthority hchecked (mem_of_mem_afterUser hopens)
    obtain ⟨before, bracketed, hsplit, hbefore⟩ := List.eq_append_cons_of_mem hopens
    rw [hsplit] at hhost ⊢
    obtain ⟨rfl, hsome⟩ := of_checkHost hbefore hhost
    rw [Text.splitFirst_append hbefore]
    simp [hsome]
  · rw [Text.splitFirst_of_not_mem hopens]
    exact splitFirst_fst_eq_nil_iff

end Url

namespace Endpoint

/-- A URL is refused for a fault of its authority, or for want of a scheme or an authority. -/
theorem refused_cases {url : String} {fault : EndpointFault} (hread : ofUrl url = .error fault) :
    (∃ cause, Url.split url.toList = .error cause ∧ fault = .url cause) ∨
      ∃ parts, Url.split url.toList = .ok parts ∧ (parts.scheme = [] ∨ parts.authority = []) ∧
        fault = .unqualified url := by
  have hqualified : qualifiedParts url = .error fault := by
    unfold ofUrl at hread
    split at hread
    · next hfault =>
        cases hread
        exact hfault
    · cases hread
  unfold qualifiedParts at hqualified
  split at hqualified
  · next cause hsplit =>
      cases hqualified
      exact .inl ⟨cause, hsplit, rfl⟩
  · next parts hsplit =>
      split at hqualified
      · next hlacks =>
          cases hqualified
          exact .inr ⟨parts, hsplit, by simpa using hlacks, rfl⟩
      · cases hqualified

/-- A URL is accepted with a scheme and an authority, and names a host unless at most a port follows
the user. Any other URL is refused with a value error: for the fault of its authority, or for want
of a scheme or of an authority, and so of a host. -/
theorem accepted_or_refused {τ σ : Type} (url : String) (scene : Scene τ σ) :
    (∃ endpoint parts, ofUrl url = .ok endpoint ∧ endpoint.url = url ∧
      Url.split url.toList = .ok parts ∧ parts.scheme ≠ [] ∧ parts.authority ≠ [] ∧
      (Url.hostOf parts.authority = [] ↔ Url.IsHostless parts.authority)) ∨
    (∃ fault, ofUrl url = .error fault ∧
      (requireEndpoint (ofUrl url) scene).result = .error (.valueError fault.message) ∧
      ((∃ cause, Url.split url.toList = .error cause ∧ fault = .url cause) ∨
        ∃ parts, Url.split url.toList = .ok parts ∧
          (parts.scheme = [] ∨ parts.authority = [] ∧ Url.hostOf parts.authority = []) ∧
          fault = .unqualified url)) := by
  cases hread : ofUrl url with
  | ok endpoint =>
      left
      have hurl := ofUrl_eq_ok hread
      obtain ⟨hscheme, hauthority⟩ := endpoint.parts_ne_nil
      refine ⟨endpoint, endpoint.parts, rfl, hurl, ?_, hscheme, hauthority,
        Url.hostOf_eq_nil_iff endpoint.checkAuthority_parts⟩
      rw [← hurl]
      exact endpoint.split_url
  | error fault =>
      right
      refine ⟨fault, rfl, rfl, (refused_cases hread).imp_right ?_⟩
      rintro ⟨parts, hsplit, hlacks, hfault⟩
      refine ⟨parts, hsplit, hlacks.imp_right fun hempty => ⟨hempty, ?_⟩, hfault⟩
      rw [hempty]
      rfl

end Endpoint

/-- A port alone is an authority without a host, and passes. -/
theorem accepted_without_host :
    ∃ endpoint parts, Endpoint.ofUrl "http://:80" = .ok endpoint ∧
      Url.split "http://:80".toList = .ok parts ∧ Url.hostOf parts.authority = [] := by
  obtain ⟨endpoint, hendpoint⟩ : ∃ endpoint, Endpoint.ofUrl "http://:80" = .ok endpoint :=
    exists_of_isOk (by decide +kernel)
  refine ⟨endpoint, ⟨"http".toList, ":80".toList, [], [], []⟩, hendpoint, ?_, ?_⟩
  · decide +kernel
  · decide

end SubgraphLauncher
