import SubgraphLauncher.Proofs.Scanning.Plain

/-!
# Which sockets share an origin

The origin of an endpoint on a socket is the root of the authority that was written for the socket,
whatever stands in the path. On plain addresses the authority is read as it was written, and it
tells both of its parts: the port stands behind the last colon, and only addresses of six groups
stand between brackets. So two sockets share an origin just if their ports are the same and they are
reached at the same address. Spellings are not compared further: one address may be written in
several ways, and has an origin for each.
-/

namespace SubgraphLauncher

namespace Endpoint

/-- Brackets tell addresses of six groups from all others. -/
theorem eq_of_hostText {host host' : String} (hhost : ∀ c ∈ host.toList, Url.isPlain c = true)
    (hhost' : ∀ c ∈ host'.toList, Url.isPlain c = true) (hsame : hostText host = hostText host') :
    host = host' := by
  have hopens {text other : String} (htext : ∀ c ∈ text.toList, Url.isPlain c = true) :
      text ≠ "[" ++ other ++ "]" := by
    rintro rfl
    exact (Url.of_isPlain (htext '[' (by simp))).2.1 rfl
  unfold hostText at hsame
  split at hsame
  · split at hsame
    · have hchars := congrArg String.toList hsame
      simp only [String.toList_append, List.append_assoc] at hchars
      exact String.toList_inj.mp (List.append_cancel_right (List.append_cancel_left hchars))
    · exact absurd hsame.symm (hopens hhost')
  · split at hsame
    · exact absurd hsame (hopens hhost)
    · exact hsame

end Endpoint

/-- On a plain address there is an endpoint for every path, with the origin of the root. -/
theorem SocketAddress.IsPlain.exists_origin {address : SocketAddress} (hplain : address.IsPlain)
    (path : String) :
    ∃ endpoint origin, Endpoint.ofSocket address.ip address.port path = .ok endpoint ∧
      endpoint.origin = .ok origin ∧
      origin.url = Endpoint.socketUrl address.ip address.port "/" := by
  obtain ⟨hkept, -⟩ := hplain.authority_passes
  obtain ⟨endpoint, hendpoint⟩ := hplain.hasUrls path
  obtain ⟨origin, horigin⟩ := endpoint.exists_origin
  refine ⟨endpoint, origin, hendpoint, horigin, ?_⟩
  rw [Endpoint.origin_ofSocket hendpoint] at horigin
  rw [Endpoint.ofUrl_eq_ok horigin, Endpoint.socketAuthority_eq hkept, String.ofList_toList]
  refine String.toList_inj.mp ?_
  simp [Endpoint.socketUrl]

/-- Endpoints on two plain addresses share an origin just if they are on one port of one address. -/
theorem SocketAddress.IsPlain.origins_agree {address other : SocketAddress}
    (haddress : address.IsPlain) (hother : other.IsPlain) (path path' : String) :
    ∃ endpoint endpoint' origin origin',
      Endpoint.ofSocket address.ip address.port path = .ok endpoint ∧
      Endpoint.ofSocket other.ip other.port path' = .ok endpoint' ∧
      endpoint.origin = .ok origin ∧ endpoint'.origin = .ok origin' ∧
      (origin = origin' ↔ address.port = other.port ∧
        Endpoint.reachableHost address.ip = Endpoint.reachableHost other.ip) := by
  obtain ⟨endpoint, origin, hendpoint, horigin, hurl⟩ := haddress.exists_origin path
  obtain ⟨endpoint', origin', hendpoint', horigin', hurl'⟩ := hother.exists_origin path'
  refine ⟨endpoint, endpoint', origin, origin', hendpoint, hendpoint', horigin, horigin', ?_, ?_⟩
  · rintro rfl
    obtain ⟨hhosts, hports⟩ := Endpoint.eq_of_socketUrl haddress.literal hother.literal
      (hurl.symm.trans hurl')
    obtain ⟨hliteral, hscope⟩ := haddress.reachable
    obtain ⟨hliteral', hscope'⟩ := hother.reachable
    exact ⟨hports, Endpoint.eq_of_hostText (Url.isPlain_of_version? hliteral hscope).1
      (Url.isPlain_of_version? hliteral' hscope').1 hhosts⟩
  · rintro ⟨hports, hhosts⟩
    refine Endpoint.eq_of_url ?_
    rw [hurl, hurl', Endpoint.socketUrl, Endpoint.socketUrl, hports, hhosts]

/-- An address in numbers without a scope is plain. -/
theorem SocketAddress.IsPlain.of_unscoped {address : SocketAddress} (hliteral : address.IsLiteral)
    (hunscoped : '%' ∉ address.ip.toList) : address.IsPlain where
  literal := hliteral
  scope := by
    rw [Url.scope, Text.splitFirst_of_not_mem hunscoped]
    exact List.forall_mem_nil _

/-- On addresses in numbers, without a scope, there is an endpoint for every port and every path.
Two of them share an origin just if they are on one port of one address, where an address that
stands for every address of the machine is taken for loopback. -/
theorem Endpoint.shares_origin_iff {host host' : String} (port port' : Int) (path path' : String)
    (hhost : (Url.version? host.toList).isSome = true) (hunscoped : '%' ∉ host.toList)
    (hhost' : (Url.version? host'.toList).isSome = true) (hunscoped' : '%' ∉ host'.toList) :
    ∃ endpoint endpoint' origin origin',
      ofSocket host port path = .ok endpoint ∧ ofSocket host' port' path' = .ok endpoint' ∧
      endpoint.origin = .ok origin ∧ endpoint'.origin = .ok origin' ∧
      (origin = origin' ↔ port = port' ∧ reachableHost host = reachableHost host') := by
  have hplain : SocketAddress.IsPlain ⟨host, port⟩ := .of_unscoped hhost hunscoped
  have hplain' : SocketAddress.IsPlain ⟨host', port'⟩ := .of_unscoped hhost' hunscoped'
  exact hplain.origins_agree hplain' path path'

/-- A path full of delimiters leaves nothing in the origin, and the address of the whole machine is
the same as loopback. -/
theorem shares_origin_iff_loopback :
    (Url.version? "0.0.0.0".toList).isSome = true ∧ '%' ∉ "0.0.0.0".toList ∧
      (Url.version? "127.0.0.1".toList).isSome = true ∧ '%' ∉ "127.0.0.1".toList ∧
      ∃ endpoint endpoint' origin,
        Endpoint.ofSocket "0.0.0.0" 4000 "/a?b#c//[d]@e" = .ok endpoint ∧
        Endpoint.ofSocket "127.0.0.1" 4000 "\t@[" = .ok endpoint' ∧
        endpoint.origin = .ok origin ∧ endpoint'.origin = .ok origin := by
  have hany : (Url.version? "0.0.0.0".toList).isSome = true := by decide +kernel
  have hloopback : (Url.version? "127.0.0.1".toList).isSome = true := by decide +kernel
  have hunscoped : '%' ∉ "0.0.0.0".toList := by decide
  have hunscoped' : '%' ∉ "127.0.0.1".toList := by decide
  obtain ⟨endpoint, endpoint', origin, origin', hendpoint, hendpoint', horigin, horigin', hagree⟩ :=
    Endpoint.shares_origin_iff 4000 4000 "/a?b#c//[d]@e" "\t@[" hany hunscoped hloopback hunscoped'
  obtain rfl := hagree.mpr ⟨rfl, by decide⟩
  exact ⟨hany, hunscoped, hloopback, hunscoped', endpoint, endpoint', origin, hendpoint, hendpoint',
    horigin, horigin'⟩

end SubgraphLauncher
