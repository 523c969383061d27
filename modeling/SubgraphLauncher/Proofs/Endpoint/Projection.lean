import SubgraphLauncher.Proofs.Scanning.Origin

/-!
# Origins as a projection

Taking the origin of an endpoint keeps its scheme and its authority and drops all else. It fails for
no endpoint, however its URL is written, and an origin is its own origin. So origins tell endpoints
apart just as far as their schemes and authorities do. The scheme is read in lower case, while the
authority is compared as it stands: two spellings of one host have different origins.
-/

namespace SubgraphLauncher

namespace Url

theorem lowerLetter_lowerLetter (c : Char) : lowerLetter (lowerLetter c) = lowerLetter c := by
  by_cases hcapital : 'A' ≤ c ∧ c ≤ 'Z'
  · have hrange : c.toNat < 128 := Nat.lt_of_le_of_lt hcapital.2 (by decide)
    refine forall_of_small hrange ?_
    decide
  · have hsame : lowerLetter c = c := if_neg hcapital
    rw [hsame, hsame]

theorem map_lowerLetter_splitScheme (s : List Char) :
    (splitScheme s).1.map lowerLetter = (splitScheme s).1 := by
  unfold splitScheme
  split
  · split
    · simp [lowerLetter_lowerLetter]
    · rfl
  · rfl

end Url

namespace Endpoint

variable {e e' origin origin' : Endpoint}

theorem map_lowerLetter_scheme (e : Endpoint) :
    e.parts.scheme.map Url.lowerLetter = e.parts.scheme := by
  rw [(Url.split_eq_ok e.split_url).1, Url.map_lowerLetter_splitScheme]

/-- The URL of an endpoint is accepted again. -/
theorem ofUrl_url (e : Endpoint) : ofUrl e.url = .ok e := by
  obtain ⟨again, hagain⟩ := exists_ofUrl_iff.mpr ⟨e.parts, e.split_url, e.parts_ne_nil⟩
  rw [hagain, eq_of_url (ofUrl_eq_ok hagain)]

theorem url_of_origin (horigin : e.origin = .ok origin) : origin.url = e.rootUrl :=
  ofUrl_eq_ok horigin

/-- An origin has the scheme and the authority of its endpoint, and the path of a root. -/
theorem parts_of_origin (horigin : e.origin = .ok origin) :
    origin.parts = ⟨e.parts.scheme, e.parts.authority, ['/'], [], []⟩ := by
  have hsplit := origin.split_url
  rw [url_of_origin horigin, e.split_rootUrl, e.map_lowerLetter_scheme] at hsplit
  exact (Except.ok.inj hsplit).symm

/-- An origin is its own origin. -/
theorem origin_of_origin (horigin : e.origin = .ok origin) : origin.origin = .ok origin := by
  have hroot : origin.rootUrl = origin.url := by
    rw [url_of_origin horigin, rootUrl, rootUrl, parts_of_origin horigin]
  show ofUrl origin.rootUrl = .ok origin
  rw [hroot, ofUrl_url]

theorem origins_eq_iff (horigin : e.origin = .ok origin) (horigin' : e'.origin = .ok origin') :
    origin = origin' ↔
      e.parts.scheme = e'.parts.scheme ∧ e.parts.authority = e'.parts.authority := by
  constructor
  · rintro rfl
    have hparts := (parts_of_origin horigin).symm.trans (parts_of_origin horigin')
    simpa using hparts
  · rintro ⟨hscheme, hauthority⟩
    apply eq_of_url
    rw [url_of_origin horigin, url_of_origin horigin', rootUrl, rootUrl, hscheme, hauthority]

/-- Every accepted URL has an origin, and taking it is a projection: it keeps the scheme, which is
in lower case, and the authority, it leaves the bare root for all else, and taken again it changes
nothing. Two accepted URLs share their origins just if they agree in scheme and authority. -/
theorem origin_projects {url url' : String} (hurl : ofUrl url = .ok e)
    (hurl' : ofUrl url' = .ok e') :
    ∃ parts parts' origin origin',
      Url.split url.toList = .ok parts ∧ Url.split url'.toList = .ok parts' ∧
      e.origin = .ok origin ∧ e'.origin = .ok origin' ∧
      parts.scheme.map Url.lowerLetter = parts.scheme ∧
      Url.split origin.url.toList = .ok ⟨parts.scheme, parts.authority, ['/'], [], []⟩ ∧
      origin.origin = .ok origin ∧
      (origin = origin' ↔ parts.scheme = parts'.scheme ∧ parts.authority = parts'.authority) := by
  obtain ⟨origin, horigin⟩ := e.exists_origin
  obtain ⟨origin', horigin'⟩ := e'.exists_origin
  obtain rfl := ofUrl_eq_ok hurl
  obtain rfl := ofUrl_eq_ok hurl'
  refine ⟨e.parts, e'.parts, origin, origin', e.split_url, e'.split_url, horigin, horigin',
    e.map_lowerLetter_scheme, ?_, origin_of_origin horigin, origins_eq_iff horigin horigin'⟩
  rw [← parts_of_origin horigin]
  exact origin.split_url

end Endpoint

/-- Capitals in the scheme, a tab within it and all that follows the authority are gone. -/
theorem origin_projects_untidy :
    ∃ endpoint endpoint' origin,
      Endpoint.ofUrl "\x01 HT\tTP://me@[::1]:80?a#b" = .ok endpoint ∧
      Endpoint.ofUrl "http://me@[::1]:80/graphql" = .ok endpoint' ∧
      endpoint.origin = .ok origin ∧ endpoint'.origin = .ok origin ∧
      origin.origin = .ok origin ∧
      Url.split origin.url.toList =
        .ok ⟨"http".toList, "me@[::1]:80".toList, ['/'], [], []⟩ := by
  obtain ⟨endpoint, hendpoint⟩ :
      ∃ endpoint, Endpoint.ofUrl "\x01 HT\tTP://me@[::1]:80?a#b" = .ok endpoint := by
    exact exists_of_isOk (by decide +kernel)
  obtain ⟨endpoint', hendpoint'⟩ :
      ∃ endpoint, Endpoint.ofUrl "http://me@[::1]:80/graphql" = .ok endpoint := by
    exact exists_of_isOk (by decide +kernel)
  have hsplit : Url.split "\x01 HT\tTP://me@[::1]:80?a#b".toList =
      .ok ⟨"http".toList, "me@[::1]:80".toList, [], ['a'], ['b']⟩ := by decide +kernel
  have hsplit' : Url.split "http://me@[::1]:80/graphql".toList =
      .ok ⟨"http".toList, "me@[::1]:80".toList, "/graphql".toList, [], []⟩ := by decide +kernel
  obtain ⟨parts, parts', origin, origin', hparts, hparts', horigin, horigin', -, hroot, hagain,
    hshared⟩ := Endpoint.origin_projects hendpoint hendpoint'
  rw [hsplit] at hparts
  rw [hsplit'] at hparts'
  cases hparts
  cases hparts'
  obtain rfl := hshared.mpr ⟨rfl, rfl⟩
  exact ⟨endpoint, endpoint', origin, hendpoint, hendpoint', horigin, horigin', hagain, hroot⟩

end SubgraphLauncher
