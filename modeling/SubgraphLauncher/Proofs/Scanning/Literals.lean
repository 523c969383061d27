import Mathlib
import SubgraphLauncher.Host.Listening
import SubgraphLauncher.Proofs.Scanning.Origin

/-!
# URLs on addresses that are numbers

An address that is written in numbers holds no slash, and a port is written without a colon. So the
URL of an endpoint on such an address tells its port: it stands between the last colon and the first
slash of what follows the scheme, and what stands before the colon tells the address. Sockets on
different ports have no URL in common.
-/

namespace SubgraphLauncher

open SubgraphLauncher.Text (cut cut_ne_nil)

/-- The address is written in numbers, of four octets or of six groups. -/
def SocketAddress.IsLiteral (address : SocketAddress) : Prop :=
  (Url.version? address.ip.toList).isSome

/-- What is no separator stands in a piece. -/
theorem Text.exists_mem_cut {α : Type} (separates : α → Bool) {s : List α} {c : α} (hc : c ∈ s)
    (hpart : separates c = false) : ∃ piece ∈ cut separates s, c ∈ piece := by
  induction s with
  | nil => cases hc
  | cons d rest ih =>
      obtain ⟨front, more, hrest⟩ := List.exists_cons_of_ne_nil (cut_ne_nil separates rest)
      rw [hrest] at ih
      rw [cut, hrest]
      cases hd : separates d with
      | true =>
          have hlater : c ∈ rest := by
            rcases List.mem_cons.mp hc with rfl | hlater
            · rw [hpart] at hd
              cases hd
            · exact hlater
          obtain ⟨piece, hpiece, hmem⟩ := ih hlater
          rw [if_pos rfl]
          exact ⟨piece, List.mem_cons_of_mem _ hpiece, hmem⟩
      | false =>
          rw [if_neg Bool.false_ne_true]
          rcases List.mem_cons.mp hc with rfl | hlater
          · exact ⟨c :: front, List.mem_cons_self, List.mem_cons_self⟩
          · obtain ⟨piece, hpiece, hmem⟩ := ih hlater
            rcases List.mem_cons.mp hpiece with rfl | hbehind
            · exact ⟨d :: piece, List.mem_cons_self, List.mem_cons_of_mem d hmem⟩
            · exact ⟨piece, List.mem_cons_of_mem _ hbehind, hmem⟩

theorem Url.slash_not_mem_of_version? {s : List Char} (hs : (Url.version? s).isSome) : '/' ∉ s := by
  intro hslash
  unfold Url.version? at hs
  split at hs
  · next hfour =>
      have hoctets : ∀ part ∈ cut (· == '.') s, Url.isOctet part = true := by
        simp only [Url.isFour, Bool.and_eq_true, List.all_eq_true] at hfour
        exact hfour.2
      obtain ⟨part, hpart, hmem⟩ := Text.exists_mem_cut (· == '.') hslash (by decide)
      have hdecimal : ∀ c ∈ part, Url.isDecimal c = true := by
        have hoctet := hoctets part hpart
        simp only [Url.isOctet, Bool.and_eq_true, List.all_eq_true] at hoctet
        exact hoctet.1.1.1.2
      exact absurd (hdecimal '/' hmem) (by decide)
  · split at hs
    · next hsix => simp [Url.isSix, hslash] at hsix
    · cases hs

namespace Endpoint

theorem slash_not_mem_hostText {host : String} (hhost : '/' ∉ host.toList) :
    '/' ∉ (hostText (reachableHost host)).toList := by
  have hreached : '/' ∉ (reachableHost host).toList := by
    unfold reachableHost
    split
    · decide
    · split
      · decide
      · exact hhost
  unfold hostText
  split
  · simp only [String.toList_append, List.mem_append, not_or]
    exact ⟨⟨by decide, hreached⟩, by decide⟩
  · exact hreached

/-- A port is written in digits, with a sign perhaps. -/
theorem port_toList (port : Int) : ∀ c ∈ (toString port).toList, c = '-' ∨ c.isDigit = true := by
  have hdigits (n : Nat) : ∀ c ∈ n.repr.toList, c = '-' ∨ c.isDigit = true := by
    intro c hc
    rw [Nat.toList_repr] at hc
    exact .inr (Nat.isDigit_of_mem_toDigits (by decide) (by decide) hc)
  intro c hc
  rw [Int.toString_eq_repr, Int.repr_eq_if] at hc
  split at hc
  · exact hdigits _ c hc
  · rw [String.toList_append, List.mem_append] at hc
    rcases hc with hsign | hdigit
    · exact .inl (List.mem_singleton.mp hsign)
    · exact hdigits _ c hdigit

/-- Up to a mark that is not in what stands before it, two texts agree if they are the same. -/
theorem eq_of_append_cons {α : Type} [DecidableEq α] {mark : α} {front other back more : List α}
    (hfront : mark ∉ front) (hother : mark ∉ other)
    (hsame : front ++ mark :: back = other ++ mark :: more) : front = other := by
  have htake {front : List α} (hfront : mark ∉ front) (back : List α) :
      (front ++ mark :: back).takeWhile (fun c => decide (c ≠ mark)) = front := by
    rw [takeWhile_append_cons_of_neg _ (by simp)]
    refine List.takeWhile_eq_self_iff.mpr fun c hc => decide_eq_true ?_
    rintro rfl
    exact hfront hc
  rw [← htake hfront back, hsame, htake hother]

/-- A port is written without a colon, so the last colon divides it from what stands before. -/
theorem eq_of_host_and_port {host host' : String} {port port' : Int}
    (hsame : (host ++ ":" ++ toString port).toList = (host' ++ ":" ++ toString port').toList) :
    host = host' ∧ port = port' := by
  have hcolon (port : Int) : ':' ∉ (toString port).toList.reverse := by
    intro hmem
    exact absurd (port_toList port ':' (List.mem_reverse.mp hmem)) (by decide)
  have hreversed := congrArg List.reverse hsame
  simp only [String.toList_append, List.reverse_append, List.append_assoc] at hreversed
  have hports := eq_of_append_cons (hcolon port) (hcolon port') hreversed
  have htexts : toString port = toString port' :=
    String.toList_inj.mp (List.reverse_injective hports)
  rw [htexts] at hsame
  simp only [String.toList_append, List.append_assoc] at hsame
  exact ⟨String.toList_inj.mp (List.append_cancel_right hsame), Int.repr_injective htexts⟩

/-- On addresses that are numbers, a URL tells the host that it was written for and the port. -/
theorem eq_of_socketUrl {address other : SocketAddress} (haddress : address.IsLiteral)
    (hother : other.IsLiteral) {path path' : String}
    (hsame : socketUrl address.ip address.port path = socketUrl other.ip other.port path') :
    hostText (reachableHost address.ip) = hostText (reachableHost other.ip) ∧
      address.port = other.port := by
  have hslash {address : SocketAddress} (haddress : address.IsLiteral) :
      '/' ∉ (hostText (reachableHost address.ip) ++ ":" ++ toString address.port).toList := by
    simp only [String.toList_append, List.mem_append, not_or]
    refine ⟨⟨slash_not_mem_hostText (Url.slash_not_mem_of_version? haddress), by decide⟩, ?_⟩
    intro hmem
    exact absurd (port_toList address.port '/' hmem) (by decide)
  obtain ⟨rest, hrest⟩ := socketUrl_toList address.ip address.port path
  obtain ⟨rest', hrest'⟩ := socketUrl_toList other.ip other.port path'
  rw [hsame, hrest'] at hrest
  exact eq_of_host_and_port (eq_of_append_cons (hslash haddress) (hslash hother)
    (List.append_cancel_left hrest.symm))

end Endpoint

end SubgraphLauncher
