import SubgraphLauncher.Proofs.Scanning.Literals
import SubgraphLauncher.Proofs.Scanning.Probes

/-!
# Plain addresses

An address in numbers is made of digits, points and colons. Only its scope, which may follow a
percent sign, can hold anything else. Where no character of the scope has a meaning in the authority
of a URL, the authority is read as it was written, and there are URLs on the address.
-/

namespace SubgraphLauncher

open SubgraphLauncher.Text (cut splitFirst)

namespace Url

/-- A character that stays in a URL as it is, and means nothing to its authority. -/
def isPlain (c : Char) : Bool :=
  isKept c && !endsAuthority c && c != '[' && c != ']' && c != '@' &&
    !delimiterLikes.contains c.toNat

/-- What follows the percent sign of an address. -/
def scope (s : List Char) : List Char := (splitFirst '%' s).2.getD []

/-- A digit, or one of the signs that divide an address. -/
def isNumeric (c : Char) : Bool := isHex c || c == ':' || c == '.'

theorem isPlain_of_small {c : Char}
    (hc : (isNumeric c || c == '%' || c == '-') = true) : isPlain c = true ∧ c ≠ 'v' := by
  have hrange : c.toNat < 128 := by
    simp only [isNumeric, isHex, isDecimal, Bool.or_eq_true, Bool.and_eq_true, decide_eq_true_eq,
      beq_iff_eq] at hc
    rcases hc with (((((⟨-, hle⟩ | ⟨-, hle⟩) | ⟨-, hle⟩) | rfl) | rfl) | rfl) | rfl
    · exact Nat.lt_of_le_of_lt hle (by decide)
    · exact Nat.lt_of_le_of_lt hle (by decide)
    · exact Nat.lt_of_le_of_lt hle (by decide)
    · decide
    · decide
    · decide
    · decide
  revert hc
  refine forall_of_small hrange ?_
  decide

/-! ### The characters of an address -/

theorem isNumeric_of_isFour {s : List Char} (hs : isFour s = true) {c : Char} (hc : c ∈ s) :
    isNumeric c = true := by
  cases hpoint : c == '.' with
  | true => simp [isNumeric, hpoint]
  | false =>
      obtain ⟨part, hpart, hmem⟩ := Text.exists_mem_cut (· == '.') hc hpoint
      have hoctets : ∀ part ∈ cut (· == '.') s, isOctet part = true := by
        simp only [isFour, Bool.and_eq_true, List.all_eq_true] at hs
        exact hs.2
      have hoctet := hoctets part hpart
      simp only [isOctet, Bool.and_eq_true, List.all_eq_true] at hoctet
      simp [isNumeric, isHex, hoctet.1.1.1.2 c hmem]

theorem drop_length_takeWhile {α : Type} (p : α → Bool) (xs : List α) :
    xs.drop (xs.takeWhile p).length = xs.dropWhile p := by
  have hwhole : xs.takeWhile p ++ xs.dropWhile p = xs := List.takeWhile_append_dropWhile
  calc xs.drop (xs.takeWhile p).length
      = (xs.takeWhile p ++ xs.dropWhile p).drop (xs.takeWhile p).length := by rw [hwhole]
    _ = xs.dropWhile p := List.drop_left

/-- Beside the two sides of a gap there is the gap. -/
theorem mem_of_splitGap {parts before after : List (List Char)}
    (hgap : splitGap parts = some (before, after)) {part : List Char} (hpart : part ∈ parts) :
    part ∈ before ∨ part = [] ∨ part ∈ after := by
  unfold splitGap at hgap
  cases parts with
  | nil => cases hgap
  | cons first rest =>
      dsimp only at hgap
      split at hgap
      · next gap behind hdrop =>
          split at hgap
          · cases hgap
          · cases hgap
            rw [drop_length_takeWhile] at hdrop
            have hstop := List.head?_dropWhile_not (fun part : List Char => !part.isEmpty) rest
            have hwhole : (rest.takeWhile fun part => !part.isEmpty) ++
                (rest.dropWhile fun part => !part.isEmpty) = rest :=
              List.takeWhile_append_dropWhile
            rw [hdrop] at hstop hwhole
            have hempty : gap = [] := by simpa using hstop
            rw [hempty] at hwhole
            rw [← hwhole] at hpart
            simp only [List.mem_cons, List.mem_append] at hpart ⊢
            tauto
      · cases hgap

theorem part_of_isSixWithoutScope {s : List Char} (hs : isSixWithoutScope s = true)
    {part : List Char} (hpart : part ∈ groups s) : part = [] ∨ isGroup part = true := by
  unfold isSixWithoutScope at hs
  dsimp only at hs
  split at hs
  · rw [Bool.and_eq_true, List.all_eq_true] at hs
    exact .inr (hs.2 part hpart)
  · next before after hgap =>
      simp only [Bool.and_eq_true, List.all_append, List.all_eq_true] at hs
      have hside {parts : List (List Char)} (hall : ∀ part ∈ side parts, isGroup part = true)
          (hmem : part ∈ parts) : part = [] ∨ isGroup part = true := by
        unfold side at hall
        split at hall
        · next hempty =>
            rw [beq_iff_eq.mp hempty, List.mem_singleton] at hmem
            exact .inl hmem
        · exact .inr (hall part hmem)
      rcases mem_of_splitGap hgap hpart with hbefore | hempty | hafter
      · exact hside hs.2.1 hbefore
      · exact .inl hempty
      · exact hside hs.2.2 hafter

theorem isNumeric_of_isSixWithoutScope {s : List Char} (hs : isSixWithoutScope s = true) {c : Char}
    (hc : c ∈ s) : isNumeric c = true := by
  cases hcolon : c == ':' with
  | true => simp [isNumeric, hcolon]
  | false =>
      obtain ⟨part, hpart, hmem⟩ := Text.exists_mem_cut (· == ':') hc hcolon
      -- The last part may be an address of four, for which two groups are counted.
      have hlisted : part ∈ groups s ∨ isFour part = true := by
        unfold groups
        dsimp only
        split
        · next last hlast =>
            split
            · next hfour =>
                rw [← List.dropLast_append_getLast? last hlast, List.mem_append,
                  List.mem_singleton] at hpart
                rcases hpart with hfront | rfl
                · exact .inl (List.mem_append_left _ hfront)
                · exact .inr hfour
            · exact .inl hpart
        · exact .inl hpart
      rcases hlisted with hgroup | hfour
      · rcases part_of_isSixWithoutScope hs hgroup with rfl | hhex
        · cases hmem
        · simp only [isGroup, Bool.and_eq_true, List.all_eq_true] at hhex
          simp [isNumeric, hhex.1.2 c hmem]
      · exact isNumeric_of_isFour hfour hmem

/-- An address of six groups begins with a digit or a colon, and beside such signs it holds no more
than the percent sign and its scope. -/
theorem of_isSix {s : List Char} (hs : isSix s = true) :
    (∀ c ∈ s, isNumeric c = true ∨ c = '%' ∨ c ∈ scope s) ∧
      ∃ first rest, s = first :: rest ∧ isNumeric first = true := by
  have hfirst {address : List Char} (haddress : isSixWithoutScope address = true)
      (behind : List Char) :
      ∃ first rest, address ++ behind = first :: rest ∧ isNumeric first = true := by
    cases address with
    | nil => exact absurd haddress (by decide)
    | cons first rest =>
        refine ⟨first, rest ++ behind, rfl, ?_⟩
        exact isNumeric_of_isSixWithoutScope haddress List.mem_cons_self
  unfold isSix at hs
  unfold scope
  by_cases hmark : '%' ∈ s
  · obtain ⟨address, scope, rfl, haddress⟩ := List.eq_append_cons_of_mem hmark
    rw [Text.splitFirst_append haddress] at hs ⊢
    simp only [Bool.and_eq_true] at hs
    refine ⟨fun c hc => ?_, hfirst hs.2.2 _⟩
    rcases List.mem_append.mp hc with hnumber | hbehind
    · exact .inl (isNumeric_of_isSixWithoutScope hs.2.2 hnumber)
    · exact .inr (List.mem_cons.mp hbehind)
  · rw [Text.splitFirst_of_not_mem hmark] at hs
    simp only [Bool.and_eq_true] at hs
    refine ⟨fun c hc => .inl (isNumeric_of_isSixWithoutScope hs.2 hc), ?_⟩
    have hwhole := hfirst hs.2 []
    rwa [List.append_nil] at hwhole

/-- An address whose scope is plain holds plain characters only, and does not begin as one of a
future kind. -/
theorem isPlain_of_version? {s : List Char} (hs : (version? s).isSome = true)
    (hscope : ∀ c ∈ scope s, isPlain c = true) :
    (∀ c ∈ s, isPlain c = true) ∧ s.head? ≠ some 'v' := by
  have hsign {c : Char} (hc : isNumeric c = true) : isPlain c = true ∧ c ≠ 'v' :=
    isPlain_of_small (by rw [hc]; rfl)
  unfold version? at hs
  split at hs
  · next hfour =>
      refine ⟨fun c hc => (hsign (isNumeric_of_isFour hfour hc)).1, fun hhead => ?_⟩
      exact (hsign (isNumeric_of_isFour hfour (List.mem_of_head? hhead))).2 rfl
  · split at hs
    · next hsix =>
        obtain ⟨hchars, first, rest, rfl, hfirst⟩ := of_isSix hsix
        refine ⟨fun c hc => ?_, fun hhead => ?_⟩
        · rcases hchars c hc with hnumber | rfl | hmem
          · exact (hsign hnumber).1
          · exact (isPlain_of_small (by decide)).1
          · exact hscope c hmem
        · obtain rfl := Option.some.inj hhead
          exact (hsign hfirst).2 rfl
    · cases hs

/-! ### The authority of a plain address -/

theorem of_isPlain {c : Char} (hc : isPlain c = true) :
    (isKept c = true ∧ endsAuthority c = false) ∧ c ≠ '[' ∧ c ≠ ']' ∧ c ≠ '@' ∧
      delimiterLikes.contains c.toNat = false := by
  simp only [isPlain, Bool.and_eq_true, Bool.not_eq_true', bne_iff_ne] at hc
  obtain ⟨⟨⟨⟨⟨hkept, hends⟩, hopens⟩, hcloses⟩, huser⟩, hlike⟩ := hc
  exact ⟨⟨hkept, hends⟩, hopens, hcloses, huser, hlike⟩

/-- A plain text passes as an authority. -/
theorem checkAuthority_of_plain {authority : List Char}
    (hplain : ∀ c ∈ authority, isPlain c = true) : checkAuthority authority = .ok () := by
  have hopens : authority.contains '[' = false := by
    simpa using fun hmem => (of_isPlain (hplain '[' hmem)).2.1 rfl
  have hcloses : authority.contains ']' = false := by
    simpa using fun hmem => (of_isPlain (hplain ']' hmem)).2.2.1 rfl
  have hlikes : (authority.any fun c => delimiterLikes.contains c.toNat) = false := by
    refine List.any_eq_false.mpr fun c hc => ?_
    rw [Bool.not_eq_true]
    exact (of_isPlain (hplain c hc)).2.2.2.2
  unfold checkAuthority
  rw [hopens, hcloses, hlikes]
  rfl

/-- Where nobody is named before the host, the host comes first. -/
theorem afterUser_of_not_mem {authority : List Char} (hnobody : '@' ∉ authority) :
    afterUser authority = authority := by
  have hnone : authority.reverse.takeWhile (· != '@') = authority.reverse := by
    refine List.takeWhile_eq_self_iff.mpr fun c hc => bne_iff_ne.mpr ?_
    exact ne_of_mem_of_not_mem (List.mem_reverse.mp hc) hnobody
  rw [afterUser, hnone, List.reverse_reverse]

/-- A plain address of six groups passes between brackets, with a port behind them. -/
theorem checkAuthority_of_bracketed {host port : List Char} (hsix : version? host = some .six)
    (hhead : host.head? ≠ some 'v') (hhost : ∀ c ∈ host, isPlain c = true)
    (hport : ∀ c ∈ port, isPlain c = true) :
    checkAuthority ('[' :: host ++ ']' :: ':' :: port) = .ok () := by
  let authority : List Char := '[' :: host ++ ']' :: ':' :: port
  have hchars : ∀ c ∈ authority, c = '[' ∨ c = ']' ∨ c = ':' ∨ isPlain c = true := by
    intro c hc
    simp only [authority, List.cons_append, List.mem_cons, List.mem_append] at hc
    rcases hc with rfl | hmem | rfl | rfl | hmem
    · exact .inl rfl
    · exact .inr (.inr (.inr (hhost c hmem)))
    · exact .inr (.inl rfl)
    · exact .inr (.inr (.inl rfl))
    · exact .inr (.inr (.inr (hport c hmem)))
  have hopens : authority.contains '[' = true := by simp [authority]
  have hcloses : authority.contains ']' = true := by simp [authority]
  have hlikes : (authority.any fun c => delimiterLikes.contains c.toNat) = false := by
    refine List.any_eq_false.mpr fun c hc => ?_
    rw [Bool.not_eq_true]
    rcases hchars c hc with rfl | rfl | rfl | hplain
    · decide
    · decide
    · decide
    · exact (of_isPlain hplain).2.2.2.2
  have huser : afterUser authority = authority := by
    refine afterUser_of_not_mem fun hmem => ?_
    rcases hchars '@' hmem with hopens | hcloses | hcolon | hplain
    · exact absurd hopens (by decide)
    · exact absurd hcloses (by decide)
    · exact absurd hcolon (by decide)
    · exact (of_isPlain hplain).2.2.2.1 rfl
  have hhost' : checkHost authority = .ok () := by
    have hopen : Text.splitFirst '[' authority = ([], some (host ++ ']' :: ':' :: port)) :=
      Text.splitFirst_append List.not_mem_nil _
    have hclose : Text.splitFirst ']' (host ++ ']' :: ':' :: port) = (host, some (':' :: port)) :=
      Text.splitFirst_append (fun hmem => (of_isPlain (hhost ']' hmem)).2.2.1 rfl) _
    unfold checkHost
    rw [hopen]
    dsimp only
    rw [hclose]
    simp [checkBracketed, hhead, hsix]
  change checkAuthority authority = .ok ()
  unfold checkAuthority
  rw [hopens, hcloses, hlikes, huser, hhost']
  rfl

end Url

/-! ### URLs on plain addresses -/

/-- An address in numbers whose scope, if it has one, is plain. -/
structure SocketAddress.IsPlain (address : SocketAddress) : Prop where
  literal : address.IsLiteral
  scope : ∀ c ∈ Url.scope address.ip.toList, Url.isPlain c = true

/-- The address in whose place another one is reached is plain too. -/
theorem SocketAddress.IsPlain.reachable {address : SocketAddress} (hplain : address.IsPlain) :
    SocketAddress.IsPlain ⟨Endpoint.reachableHost address.ip, address.port⟩ := by
  have hloopback : ∀ ip ∈ ["127.0.0.1", "::1"],
      (Url.version? ip.toList).isSome = true ∧ Url.scope ip.toList = [] := by
    decide +kernel
  have hplain' {ip : String} (hip : ip ∈ ["127.0.0.1", "::1"]) :
      SocketAddress.IsPlain ⟨ip, address.port⟩ := by
    obtain ⟨hliteral, hscope⟩ := hloopback ip hip
    exact ⟨hliteral, hscope ▸ List.forall_mem_nil _⟩
  unfold Endpoint.reachableHost
  split
  · exact hplain' (by simp)
  · split
    · exact hplain' (by simp)
    · exact hplain

/-- What stays in a URL and ends no authority is the authority of its socket. -/
theorem Endpoint.socketAuthority_eq {host : String} {port : Int}
    (hkept : ∀ c ∈ (hostText (reachableHost host) ++ ":" ++ toString port).toList,
      Url.isKept c = true ∧ Url.endsAuthority c = false) :
    socketAuthority host port =
      (hostText (reachableHost host) ++ ":" ++ toString port).toList := by
  unfold socketAuthority
  rw [List.filter_eq_self.mpr fun c hc => (hkept c hc).1]
  refine List.takeWhile_eq_self_iff.mpr fun c hc => ?_
  rw [(hkept c hc).2]
  rfl

theorem Endpoint.isPlain_of_mem_port {port : Int} {c : Char} (hc : c ∈ (toString port).toList) :
    Url.isPlain c = true := by
  rcases port_toList port c hc with rfl | hdigit
  · exact (Url.isPlain_of_small (by decide)).1
  · have hdecimal : Url.isDecimal c = true := by
      simpa [Url.isDecimal, Char.isDigit, Char.le_def] using hdigit
    refine (Url.isPlain_of_small ?_).1
    simp [Url.isNumeric, Url.isHex, hdecimal]

/-- What a URL on a plain address names as its authority stays as it is, and passes. -/
theorem SocketAddress.IsPlain.authority_passes {address : SocketAddress}
    (hplain : address.IsPlain) :
    let authority := (Endpoint.hostText (Endpoint.reachableHost address.ip) ++ ":" ++
      toString address.port).toList
    (∀ c ∈ authority, Url.isKept c = true ∧ Url.endsAuthority c = false) ∧
      Url.checkAuthority authority = .ok () := by
  obtain ⟨hliteral, hscope⟩ := hplain.reachable
  obtain ⟨hhost, hhead⟩ := Url.isPlain_of_version? hliteral hscope
  have hcolon : Url.isPlain ':' = true := (Url.isPlain_of_small (by decide)).1
  unfold Endpoint.hostText
  dsimp only at hhost hhead ⊢
  split
  · next hsix =>
      simp only [String.toList_append, List.append_assoc]
      refine ⟨fun c hc => ?_, Url.checkAuthority_of_bracketed hsix hhead hhost fun c hc =>
        Endpoint.isPlain_of_mem_port hc⟩
      simp only [List.mem_append] at hc
      rcases hc with hopens | hmem | hcloses | hmem | hmem
      · rw [List.mem_singleton.mp hopens]
        decide
      · exact (Url.of_isPlain (hhost c hmem)).1
      · rw [List.mem_singleton.mp hcloses]
        decide
      · rw [List.mem_singleton.mp hmem]
        exact (Url.of_isPlain hcolon).1
      · exact (Url.of_isPlain (Endpoint.isPlain_of_mem_port hmem)).1
  · have hall : ∀ c ∈ (Endpoint.reachableHost address.ip ++ ":" ++
        toString address.port).toList, Url.isPlain c = true := by
      intro c hc
      simp only [String.toList_append, List.mem_append] at hc
      rcases hc with (hmem | hmem) | hmem
      · exact hhost c hmem
      · rw [List.mem_singleton.mp hmem]
        exact hcolon
      · exact Endpoint.isPlain_of_mem_port hmem
    exact ⟨fun c hc => (Url.of_isPlain (hall c hc)).1, Url.checkAuthority_of_plain hall⟩

/-- There are URLs on every plain address. -/
theorem SocketAddress.IsPlain.hasUrls {address : SocketAddress} (hplain : address.IsPlain) :
    address.HasUrls := by
  obtain ⟨hkept, hpasses⟩ := hplain.authority_passes
  rw [address.hasUrls_iff, Endpoint.isOk_ofSocket, Endpoint.socketAuthority_eq hkept, hpasses]
  simp [Except.isOk, Except.toBool]

end SubgraphLauncher
