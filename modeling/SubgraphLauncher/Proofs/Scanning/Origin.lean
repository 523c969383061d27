import Mathlib.Data.List.TakeWhile
import SubgraphLauncher.Endpoint

/-!
# The origin of a socket

An endpoint on a socket is a URL put together from an address and a path, and its origin is cut out
of that URL again. The path begins with a slash, and a slash ends the authority. So nothing of the
path gets into the origin, whatever the address looks like: all endpoints on one socket have one
origin.

A scheme and an authority are read from a URL that is written from them as they are. So every
endpoint has an origin.
-/

namespace SubgraphLauncher

open SubgraphLauncher.Text (splitFirst)

theorem takeWhile_append_cons_of_neg {α : Type} (p : α → Bool) {stop : α} (hstop : p stop = false)
    (before after : List α) :
    (before ++ stop :: after).takeWhile p = before.takeWhile p := by
  rw [List.takeWhile_append, List.takeWhile_cons_of_neg (Bool.eq_false_iff.mp hstop),
    List.append_nil]
  split
  · rename_i hwhole
    exact ((List.takeWhile_prefix p).eq_of_length hwhole).symm
  · rfl

theorem exists_of_isOk {ε α : Type} {x : Except ε α} (hok : x.isOk = true) : ∃ a, x = .ok a := by
  cases x with
  | error e => cases hok
  | ok a => exact ⟨a, rfl⟩

/-! ### The parts of an endpoint -/

/-- An endpoint is its URL. -/
theorem Endpoint.eq_of_url {endpoint other : Endpoint} (hsame : endpoint.url = other.url) :
    endpoint = other := by
  cases endpoint
  cases other
  cases hsame
  rfl

theorem Endpoint.ofUrl_eq_ok {url : String} {e : Endpoint} (he : Endpoint.ofUrl url = .ok e) :
    e.url = url := by
  unfold Endpoint.ofUrl at he
  split at he
  · cases he
  · cases he
    rfl

theorem Endpoint.qualifiedParts_url (e : Endpoint) : qualifiedParts e.url = .ok e.parts := by
  unfold Endpoint.parts
  split
  · assumption
  · rename_i hfault
    have hqualified := e.qualified
    rw [hfault] at hqualified
    cases hqualified

theorem Endpoint.split_url (e : Endpoint) : Url.split e.url.toList = .ok e.parts := by
  have hparts := e.qualifiedParts_url
  unfold qualifiedParts at hparts
  split at hparts
  · cases hparts
  · split at hparts
    · cases hparts
    · rename_i hsplit _
      rw [hsplit, Except.ok.inj hparts]

/-- Only the authority of a URL can be at fault. -/
theorem Url.isOk_split (url : List Char) :
    (Url.split url).isOk =
      (checkAuthority (splitAuthority (splitScheme (clean url)).2).1).isOk := by
  unfold Url.split
  simp only [bind, Except.bind]
  cases checkAuthority (splitAuthority (splitScheme (clean url)).2).1 <;> rfl

theorem Url.split_eq_ok {url : List Char} {parts : Url.Parts} (hsplit : Url.split url = .ok parts) :
    parts.scheme = (splitScheme (clean url)).1 ∧
      parts.authority = (splitAuthority (splitScheme (clean url)).2).1 := by
  unfold Url.split at hsplit
  simp only [bind, Except.bind] at hsplit
  split at hsplit
  · cases hsplit
  · cases hsplit
    exact ⟨rfl, rfl⟩

/-! ### The text of an address -/

/-- Characters that stay when a URL is brought on one line. -/
def Url.isKept (c : Char) : Bool := c != '\t' && c != '\r' && c != '\n'

namespace Endpoint

/-- The authority of the endpoints on a socket. -/
def socketAuthority (host : String) (port : Int) : List Char :=
  ((hostText (reachableHost host) ++ ":" ++ toString port).toList.filter Url.isKept).takeWhile
    fun c => !Url.endsAuthority c

/-- The origin of the endpoints on a socket. -/
def socketOrigin (host : String) (port : Int) : Except EndpointFault Endpoint :=
  ofUrl (String.ofList ['h', 't', 't', 'p'] ++ "://" ++
    String.ofList (socketAuthority host port) ++ "/")

/-- Behind the address stands a slash. -/
theorem socketUrl_toList (host : String) (port : Int) (path : String) :
    ∃ rest, (socketUrl host port path).toList =
      ['h', 't', 't', 'p', ':', '/', '/'] ++
        ((hostText (reachableHost host) ++ ":" ++ toString port).toList ++ '/' :: rest) := by
  have hrooted : ∃ rest,
      (if path.startsWith "/" then path else "/" ++ path).toList = '/' :: rest := by
    split
    · rename_i hslash
      have hfront : ['/'] <+: path.toList := by simpa using hslash
      obtain ⟨rest, hrest⟩ := hfront
      exact ⟨rest, hrest.symm⟩
    · exact ⟨path.toList, by simp⟩
  obtain ⟨rest, hrest⟩ := hrooted
  refine ⟨rest, ?_⟩
  unfold socketUrl
  dsimp only
  simp only [String.toList_append, hrest, List.append_assoc]
  rfl

theorem splitScheme_http (rest : List Char) :
    Url.splitScheme ('h' :: 't' :: 't' :: 'p' :: ':' :: rest) = (['h', 't', 't', 'p'], rest) := by
  have hsplit : splitFirst ':' ('h' :: 't' :: 't' :: 'p' :: ':' :: rest) =
      (['h', 't', 't', 'p'], some rest) := by rfl
  have hchecked : (['h', 't', 't', 'p'].head?.any Url.isLetter &&
      ['h', 't', 't', 'p'].all Url.isSchemeChar) = true := by decide
  have hlower : ['h', 't', 't', 'p'].map Url.lowerLetter = ['h', 't', 't', 'p'] := by decide
  unfold Url.splitScheme
  rw [hsplit]
  dsimp only
  rw [hchecked, hlower]
  rfl

theorem splitAuthority_slashes (before after : List Char) :
    (Url.splitAuthority ('/' :: '/' :: (before ++ '/' :: after))).1 =
      before.takeWhile fun c => !Url.endsAuthority c :=
  takeWhile_append_cons_of_neg (fun c => !Url.endsAuthority c) rfl before after

theorem splitScheme_socketUrl (host : String) (port : Int) (path : String) :
    let split := Url.splitScheme (Url.clean (socketUrl host port path).toList)
    split.1 = ['h', 't', 't', 'p'] ∧
      (Url.splitAuthority split.2).1 = socketAuthority host port := by
  obtain ⟨rest, hrest⟩ := socketUrl_toList host port path
  have hclean (text : List Char) : Url.clean (['h', 't', 't', 'p', ':', '/', '/'] ++ text) =
      ['h', 't', 't', 'p', ':', '/', '/'] ++ text.filter Url.isKept := by
    rfl
  have hkept : Url.isKept '/' = true := rfl
  rw [hrest, hclean, List.filter_append, List.filter_cons_of_pos hkept]
  simp only [List.cons_append, List.nil_append, splitScheme_http, splitAuthority_slashes,
    socketAuthority, and_self]

theorem parts_of_socketUrl {e : Endpoint} {host : String} {port : Int} {path : String}
    (hurl : e.url = socketUrl host port path) :
    e.parts.scheme = ['h', 't', 't', 'p'] ∧ e.parts.authority = socketAuthority host port := by
  obtain ⟨hscheme, hauthority⟩ := Url.split_eq_ok e.split_url
  rw [hscheme, hauthority, hurl]
  exact splitScheme_socketUrl host port path

/-- All endpoints on one socket have one origin. -/
theorem origin_ofSocket {e : Endpoint} {host : String} {port : Int} {path : String}
    (he : ofSocket host port path = .ok e) : e.origin = socketOrigin host port := by
  obtain ⟨hscheme, hauthority⟩ := parts_of_socketUrl (ofUrl_eq_ok he)
  unfold origin
  dsimp only
  rw [hscheme, hauthority]
  rfl

/-- A URL is fit for an endpoint if it has a scheme and an authority that passes its check. -/
theorem isOk_ofUrl (url : String) :
    let split := Url.splitScheme (Url.clean url.toList)
    let authority := (Url.splitAuthority split.2).1
    (ofUrl url).isOk =
      ((Url.checkAuthority authority).isOk && !(split.1.isEmpty || authority.isEmpty)) := by
  have hurl : (ofUrl url).isOk = (qualifiedParts url).isOk := by
    unfold ofUrl
    split <;> simp only [*] <;> rfl
  dsimp only
  rw [hurl, ← Url.isOk_split]
  unfold qualifiedParts
  cases hsplit : Url.split url.toList with
  | error fault => rfl
  | ok parts =>
      obtain ⟨hscheme, hauthority⟩ := Url.split_eq_ok hsplit
      dsimp only
      rw [← hscheme, ← hauthority]
      cases parts.scheme.isEmpty || parts.authority.isEmpty <;> rfl

/-- Whether there is a URL on a socket does not depend on the path. -/
theorem isOk_ofSocket (host : String) (port : Int) (path : String) :
    (ofSocket host port path).isOk = ((Url.checkAuthority (socketAuthority host port)).isOk &&
      !(socketAuthority host port).isEmpty) := by
  obtain ⟨hscheme, hauthority⟩ := splitScheme_socketUrl host port path
  rw [ofSocket, isOk_ofUrl, hscheme, hauthority]
  rfl

end Endpoint

/-! ### Every endpoint has an origin -/

namespace Url

/-- What holds of the first characters, one by one, holds of each character among them. -/
@[elab_as_elim]
theorem forall_of_small {kind : Char → Prop} {c : Char} (hc : c.toNat < 128)
    (hsmall : ∀ n < 128, kind (Char.ofNat n)) : kind c := by
  have hchar := hsmall c.toNat hc
  rwa [Char.ofNat_toNat] at hchar

/-- A character that a scheme may have stays one in lower case, and is no delimiter and no blank. -/
theorem of_isSchemeChar {c : Char} (hc : isSchemeChar c = true) :
    isSchemeChar (lowerLetter c) = true ∧ (isLetter c = true → isLetter (lowerLetter c) = true) ∧
      c ≠ ':' ∧ isKept c = true ∧ ¬ c ≤ ' ' := by
  have hrange : c.toNat < 128 := by
    simp only [isSchemeChar, isLetter, isDecimal, Bool.or_eq_true, Bool.and_eq_true,
      decide_eq_true_eq, beq_iff_eq] at hc
    rcases hc with ((((⟨-, hle⟩ | ⟨-, hle⟩) | ⟨-, hle⟩) | rfl) | rfl) | rfl
    · exact Nat.lt_of_le_of_lt hle (by decide)
    · exact Nat.lt_of_le_of_lt hle (by decide)
    · exact Nat.lt_of_le_of_lt hle (by decide)
    · decide
    · decide
    · decide
  revert hc
  refine forall_of_small hrange ?_
  decide

/-- What may stand in front of the colon of a URL. -/
structure IsScheme (scheme : List Char) : Prop where
  letter : scheme.head?.any isLetter = true
  chars : ∀ c ∈ scheme, isSchemeChar c = true

theorem IsScheme.lower {scheme : List Char} (hscheme : IsScheme scheme) :
    IsScheme (scheme.map lowerLetter) where
  letter := by
    have hletter := hscheme.letter
    cases scheme with
    | nil => exact hletter
    | cons first rest =>
        exact (of_isSchemeChar (hscheme.chars first List.mem_cons_self)).2.1 hletter
  chars := by
    intro c hc
    obtain ⟨d, hd, rfl⟩ := List.mem_map.mp hc
    exact (of_isSchemeChar (hscheme.chars d hd)).1

theorem isScheme_splitScheme {s : List Char} (hsome : (splitScheme s).1 ≠ []) :
    IsScheme (splitScheme s).1 := by
  unfold splitScheme at hsome ⊢
  split at hsome
  · next before rest hsplit =>
      split at hsome
      · next hchecked =>
          rw [if_pos hchecked]
          rw [Bool.and_eq_true, List.all_eq_true] at hchecked
          exact IsScheme.lower ⟨hchecked.1, hchecked.2⟩
      · exact absurd rfl hsome
  · exact absurd rfl hsome

/-- A scheme is read again from a text that begins with it. -/
theorem splitScheme_append {scheme : List Char} (hscheme : IsScheme scheme) (rest : List Char) :
    splitScheme (scheme ++ ':' :: rest) = (scheme.map lowerLetter, rest) := by
  have hsplit : splitFirst ':' (scheme ++ ':' :: rest) = (scheme, some rest) :=
    Text.splitFirst_append (fun hmem => (of_isSchemeChar (hscheme.chars ':' hmem)).2.2.1 rfl) rest
  have hchecked : (scheme.head?.any isLetter && scheme.all isSchemeChar) = true := by
    rw [hscheme.letter, List.all_eq_true.mpr hscheme.chars]
    rfl
  unfold splitScheme
  rw [hsplit]
  dsimp only
  rw [if_pos hchecked]

/-- A text that begins with a scheme and stays on one line is split as it is. -/
theorem clean_append {scheme : List Char} (hscheme : IsScheme scheme) {rest : List Char}
    (hkept : ∀ c ∈ rest, isKept c = true) : clean (scheme ++ rest) = scheme ++ rest := by
  have hfirst : (scheme ++ rest).dropWhile (fun c => decide (c ≤ ' ')) = scheme ++ rest := by
    have hletter := hscheme.letter
    cases scheme with
    | nil => cases hletter
    | cons first more =>
        have hblank := (of_isSchemeChar (hscheme.chars first List.mem_cons_self)).2.2.2.2
        exact List.dropWhile_cons_of_neg (by simpa using hblank)
  have hall : ∀ c ∈ scheme ++ rest, isKept c = true := by
    refine List.forall_mem_append.mpr ⟨fun c hc => ?_, hkept⟩
    exact (of_isSchemeChar (hscheme.chars c hc)).2.2.2.1
  unfold clean
  rw [hfirst]
  exact List.filter_eq_self.mpr hall

theorem splitFirst_suffix {mark : Char} {s before rest : List Char}
    (hsplit : splitFirst mark s = (before, some rest)) : rest <:+ s := by
  unfold splitFirst at hsplit
  split at hsplit
  · cases hsplit
  · next dropped hdropped =>
      cases hsplit
      exact (List.suffix_cons _ _).trans (hdropped ▸ List.dropWhile_suffix _)

theorem splitScheme_suffix (s : List Char) : (splitScheme s).2 <:+ s := by
  unfold splitScheme
  split
  · next before rest hsplit =>
      split
      · exact splitFirst_suffix hsplit
      · exact List.suffix_refl s
  · exact List.suffix_refl s

/-- What is in an authority stays on one line, and ends no authority. -/
theorem of_mem_authority {url : List Char} {c : Char}
    (hc : c ∈ (splitAuthority (splitScheme (clean url)).2).1) :
    isKept c = true ∧ endsAuthority c = false := by
  have hauthority : c ∈ (splitScheme (clean url)).2 ∧ endsAuthority c = false := by
    unfold splitAuthority at hc
    split at hc
    · next rest hslashes =>
        have hends := List.mem_takeWhile_imp hc
        have hmem : c ∈ rest := (List.takeWhile_prefix _).subset hc
        rw [hslashes]
        exact ⟨by simp [hmem], by simpa using hends⟩
    · cases hc
  have hclean : c ∈ clean url := (splitScheme_suffix _).subset hauthority.1
  exact ⟨(List.mem_filter.mp hclean).2, hauthority.2⟩

/-- A URL is split where its scheme and its authority are. -/
theorem split_eq {url scheme afterScheme authority afterAuthority : List Char}
    (hscheme : splitScheme (clean url) = (scheme, afterScheme))
    (hauthority : splitAuthority afterScheme = (authority, afterAuthority))
    (hchecked : checkAuthority authority = .ok ()) :
    split url = .ok ⟨scheme, authority, (splitFirst '?' (splitFirst '#' afterAuthority).1).1,
      (splitFirst '?' (splitFirst '#' afterAuthority).1).2.getD [],
      (splitFirst '#' afterAuthority).2.getD []⟩ := by
  unfold split
  rw [hscheme]
  dsimp only
  rw [hauthority]
  dsimp only
  rw [hchecked]
  rfl

/-- The scheme and the authority that a root is written from are read again, and nothing else. -/
theorem split_root {scheme authority : List Char} (hscheme : IsScheme scheme)
    (hauthority : ∀ c ∈ authority, isKept c = true ∧ endsAuthority c = false)
    (hchecked : checkAuthority authority = .ok ()) :
    split (String.ofList scheme ++ "://" ++ String.ofList authority ++ "/").toList =
      .ok ⟨scheme.map lowerLetter, authority, ['/'], [], []⟩ := by
  have htext : (String.ofList scheme ++ "://" ++ String.ofList authority ++ "/").toList =
      scheme ++ ':' :: '/' :: '/' :: (authority ++ ['/']) := by
    simp only [String.toList_append, String.toList_ofList, List.append_assoc]
    rfl
  have hkept : ∀ c ∈ ':' :: '/' :: '/' :: (authority ++ ['/']), isKept c = true := by
    intro c hc
    simp only [List.mem_cons, List.mem_append, List.not_mem_nil, or_false] at hc
    rcases hc with rfl | rfl | rfl | hmem | rfl
    · rfl
    · rfl
    · rfl
    · exact (hauthority c hmem).1
    · rfl
  have hinside : ∀ c ∈ authority, (!endsAuthority c) = true := by
    intro c hc
    rw [(hauthority c hc).2]
    rfl
  have hends : (!endsAuthority '/') = false := rfl
  have hsplit : splitScheme (clean (String.ofList scheme ++ "://" ++ String.ofList authority ++
      "/").toList) = (scheme.map lowerLetter, '/' :: '/' :: (authority ++ ['/'])) := by
    rw [htext, clean_append hscheme hkept, splitScheme_append hscheme]
  have hslashes : splitAuthority ('/' :: '/' :: (authority ++ ['/'])) = (authority, ['/']) := by
    simp [splitAuthority, List.takeWhile_append_of_pos hinside,
      List.dropWhile_append_of_pos hinside, hends]
  exact split_eq hsplit hslashes hchecked

end Url

theorem Endpoint.parts_ne_nil (e : Endpoint) : e.parts.scheme ≠ [] ∧ e.parts.authority ≠ [] := by
  have hparts := e.qualifiedParts_url
  unfold qualifiedParts at hparts
  rw [e.split_url] at hparts
  dsimp only at hparts
  split at hparts
  · cases hparts
  · next hsome => simpa using hsome

/-- A URL is accepted just if it can be split and has a scheme and an authority. -/
theorem Endpoint.exists_ofUrl_iff {url : String} :
    (∃ endpoint, ofUrl url = .ok endpoint) ↔
      ∃ parts, Url.split url.toList = .ok parts ∧ parts.scheme ≠ [] ∧ parts.authority ≠ [] := by
  constructor
  · rintro ⟨endpoint, hendpoint⟩
    refine ⟨endpoint.parts, ?_, endpoint.parts_ne_nil⟩
    rw [← ofUrl_eq_ok hendpoint]
    exact endpoint.split_url
  · rintro ⟨parts, hsplit, hscheme, hauthority⟩
    have hqualified : qualifiedParts url = .ok parts := by
      unfold qualifiedParts
      rw [hsplit]
      dsimp only
      rw [List.isEmpty_eq_false_iff.mpr hscheme, List.isEmpty_eq_false_iff.mpr hauthority]
      rfl
    unfold ofUrl
    split
    · next hfault =>
        rw [hqualified] at hfault
        cases hfault
    · exact ⟨_, rfl⟩

theorem Endpoint.checkAuthority_parts (e : Endpoint) :
    Url.checkAuthority e.parts.authority = .ok () := by
  have hok : (Url.checkAuthority e.parts.authority).isOk = true := by
    rw [(Url.split_eq_ok e.split_url).2, ← Url.isOk_split, e.split_url]
    rfl
  obtain ⟨_, hpasses⟩ := exists_of_isOk hok
  exact hpasses

/-- The URL of the root that an endpoint belongs to. -/
def Endpoint.rootUrl (e : Endpoint) : String :=
  String.ofList e.parts.scheme ++ "://" ++ String.ofList e.parts.authority ++ "/"

/-- The scheme and the authority of an endpoint are read again from its root. -/
theorem Endpoint.split_rootUrl (e : Endpoint) :
    Url.split e.rootUrl.toList =
      .ok ⟨e.parts.scheme.map Url.lowerLetter, e.parts.authority, ['/'], [], []⟩ := by
  obtain ⟨hscheme, hauthority⟩ := Url.split_eq_ok e.split_url
  have hvalid : Url.IsScheme e.parts.scheme := by
    have hsome := e.parts_ne_nil.1
    rw [hscheme] at hsome ⊢
    exact Url.isScheme_splitScheme hsome
  have hkept : ∀ c ∈ e.parts.authority,
      Url.isKept c = true ∧ Url.endsAuthority c = false := by
    rw [hauthority]
    exact fun c hc => Url.of_mem_authority hc
  exact Url.split_root hvalid hkept e.checkAuthority_parts

/-- Every endpoint has an origin, which stands at its root. -/
theorem Endpoint.exists_origin_at (e : Endpoint) :
    ∃ origin, e.origin = .ok origin ∧ origin.url = e.rootUrl := by
  obtain ⟨hscheme, hauthority⟩ := e.parts_ne_nil
  obtain ⟨origin, horigin⟩ := exists_ofUrl_iff.mpr
    ⟨_, e.split_rootUrl, List.map_eq_nil_iff.not.mpr hscheme, hauthority⟩
  exact ⟨origin, horigin, ofUrl_eq_ok horigin⟩

/-- Every endpoint has an origin. -/
theorem Endpoint.exists_origin (e : Endpoint) : ∃ origin, e.origin = .ok origin := by
  obtain ⟨origin, horigin, -⟩ := e.exists_origin_at
  exact ⟨origin, horigin⟩

end SubgraphLauncher
