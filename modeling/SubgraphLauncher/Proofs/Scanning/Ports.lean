import Mathlib.Data.Int.CardIntervalMod
import SubgraphLauncher.Partner.SocketScanner

/-!
# The order of the ports

A scan takes its ports in increasing order, from some place to the end and on from the front. So the
ports stand at the places of an endless round, and a scan visits the ports at places one after the
other. Along such places every port is followed by the next one in the cyclic order of numbers, and
no port is visited more than once more often than another.
-/

namespace SubgraphLauncher

/-! ### In increasing order, each once -/

section PortsOf

variable {addresses others : List SocketAddress} {port : Int}

theorem nodup_eraseDups {α : Type} [BEq α] [LawfulBEq α] (xs : List α) : xs.eraseDups.Nodup := by
  match xs with
  | [] => exact List.nodup_nil
  | x :: rest =>
      have hshorter : (rest.filter fun y => !y == x).length < rest.length + 1 :=
        Nat.lt_succ_of_le (List.length_filter_le _ _)
      rw [List.eraseDups_cons]
      refine List.nodup_cons.mpr ⟨fun hmem => ?_, nodup_eraseDups _⟩
      have hother := (List.mem_filter.mp (List.mem_eraseDups.mp hmem)).2
      simp at hother
termination_by xs.length

theorem portsOf_nil : portsOf [] = [] := by
  rw [portsOf, List.map_nil, List.eraseDups_nil, List.mergeSort_nil]

theorem mem_portsOf :
    port ∈ portsOf addresses ↔ ∃ address ∈ addresses, address.port = port := by
  rw [portsOf, List.mem_mergeSort, List.mem_eraseDups, List.mem_map]

theorem pairwise_portsOf (addresses : List SocketAddress) :
    (portsOf addresses).Pairwise (· < ·) := by
  have hsorted : (portsOf addresses).Pairwise fun a b => decide (a ≤ b) = true := by
    refine List.pairwise_mergeSort (fun a b c hab hbc => ?_) (fun a b => ?_) _
    · exact decide_eq_true (Int.le_trans (of_decide_eq_true hab) (of_decide_eq_true hbc))
    · simpa using Int.le_total a b
  have hdistinct : (portsOf addresses).Nodup :=
    (List.mergeSort_perm _ _).nodup_iff.mpr (nodup_eraseDups _)
  refine (hsorted.and hdistinct).imp fun hab => ?_
  have hle := of_decide_eq_true hab.1
  have hne := hab.2
  omega

/-- No other increasing list has the same ports. -/
theorem portsOf_eq {ports : List Int} (hsorted : ports.Pairwise (· < ·))
    (hsame : ∀ port, port ∈ addresses.map (·.port) ↔ port ∈ ports) : portsOf addresses = ports := by
  have hperm : (portsOf addresses).Perm ports := by
    refine (List.perm_ext_iff_of_nodup ?_ ?_).mpr fun port => ?_
    · exact (pairwise_portsOf addresses).imp Int.ne_of_lt
    · exact hsorted.imp Int.ne_of_lt
    · rw [mem_portsOf, ← hsame, List.mem_map]
  refine hperm.eq_of_pairwise (fun a b _ _ hab hba => ?_) (pairwise_portsOf _) hsorted
  omega

/-- The ports of a set of addresses do not depend on the order in which they are listed. -/
theorem portsOf_eq_of_mem_iff (hsame : ∀ address, address ∈ addresses ↔ address ∈ others) :
    portsOf addresses = portsOf others := by
  refine portsOf_eq (pairwise_portsOf others) fun port => ?_
  simp only [mem_portsOf, List.mem_map, hsame]

end PortsOf

/-! ### The addresses of a port -/

section Preferred

variable {addresses : List SocketAddress} {address other third : SocketAddress}

theorem preferred_iff : preferred address other ↔
    addressRank address.ip < addressRank other.ip ∨
      addressRank address.ip = addressRank other.ip ∧ address.ip ≤ other.ip := by
  simp only [preferred, Bool.or_eq_true, Bool.and_eq_true, Bool.not_eq_true', beq_iff_eq,
    decide_eq_true_eq, decide_eq_false_iff_not, String.not_lt]

theorem preferred_trans (hfirst : preferred address other) (hsecond : preferred other third) :
    preferred address third := by
  rw [preferred_iff] at *
  rcases hfirst with hless | ⟨hsame, hle⟩
  · rcases hsecond with hless' | ⟨hsame', -⟩
    · exact .inl (hless.trans hless')
    · exact .inl (hsame' ▸ hless)
  · rcases hsecond with hless' | ⟨hsame', hle'⟩
    · exact .inl (hsame ▸ hless')
    · exact .inr ⟨hsame.trans hsame', String.le_trans hle hle'⟩

theorem preferred_total (address other : SocketAddress) :
    preferred address other ∨ preferred other address := by
  rw [preferred_iff, preferred_iff]
  rcases Nat.lt_trichotomy (addressRank address.ip) (addressRank other.ip) with
    hless | hsame | hmore
  · exact .inl (.inl hless)
  · rcases String.le_total address.ip other.ip with hle | hle
    · exact .inl (.inr ⟨hsame, hle⟩)
    · exact .inr (.inr ⟨hsame.symm, hle⟩)
  · exact .inr (.inl hmore)

/-- Of two addresses on one port, each is preferred to the other only if they are the same. -/
theorem eq_of_preferred (hport : address.port = other.port) (hfirst : preferred address other)
    (hsecond : preferred other address) : address = other := by
  rw [preferred_iff] at hfirst hsecond
  have hip : address.ip = other.ip := by
    rcases hfirst with hless | ⟨hsame, hle⟩ <;> rcases hsecond with hless' | ⟨hsame', hle'⟩
    · omega
    · omega
    · omega
    · exact String.le_antisymm hle hle'
  cases address
  cases other
  simp_all

theorem mem_addressesOn {port : Int} :
    address ∈ addressesOn addresses port ↔ address ∈ addresses ∧ address.port = port := by
  rw [addressesOn, List.mem_mergeSort, List.mem_filter, beq_iff_eq]

theorem pairwise_addressesOn (addresses : List SocketAddress) (port : Int) :
    (addressesOn addresses port).Pairwise fun address other => preferred address other := by
  refine List.pairwise_mergeSort (fun a b c hab hbc => ?_) (fun a b => ?_) _
  · exact preferred_trans hab hbc
  · rw [Bool.or_eq_true]
    exact preferred_total a b

theorem addressesOn_eq_self {port : Int}
    (hsorted : addresses.Pairwise fun address other => preferred address other)
    (hport : ∀ address ∈ addresses, address.port = port) :
    addressesOn addresses port = addresses := by
  rw [addressesOn, List.filter_eq_self.mpr fun address haddress => beq_iff_eq.mpr
    (hport address haddress)]
  exact List.mergeSort_of_pairwise hsorted

/-- The addresses of a port do not depend on the order in which they are listed. -/
theorem addressesOn_eq_of_mem_iff {others : List SocketAddress} (hdistinct : addresses.Nodup)
    (hdistinct' : others.Nodup) (hsame : ∀ address, address ∈ addresses ↔ address ∈ others)
    (port : Int) : addressesOn addresses port = addressesOn others port := by
  have hlisted : addresses.Perm others :=
    (List.perm_ext_iff_of_nodup hdistinct hdistinct').mpr hsame
  have hperm : (addressesOn addresses port).Perm (addressesOn others port) :=
    (List.mergeSort_perm _ _).trans ((hlisted.filter _).trans (List.mergeSort_perm _ _).symm)
  refine hperm.eq_of_pairwise (fun a b ha hb hab hba => ?_) (pairwise_addressesOn addresses port)
    (pairwise_addressesOn others port)
  have hport : a.port = b.port := (mem_addressesOn.mp ha).2.trans (mem_addressesOn.mp hb).2.symm
  exact eq_of_preferred hport hab hba

end Preferred

/-! ### Round and round -/

/-- The port at a place. Behind the last port the first one comes again. -/
def portAt (ports : List Int) (place : Nat) : Int := ports.getD (place % ports.length) 0

/-- The port that follows a number in the cyclic order of the ports: the smallest greater one, or
the smallest of all where there is none. -/
def portAfter (ports : List Int) (port : Int) : Option Int :=
  (ports.find? fun other => decide (port < other)).or ports.head?

section Round

variable {ports : List Int}

theorem portAt_eq_getElem {place : Nat} (hplace : place % ports.length < ports.length) :
    portAt ports place = ports[place % ports.length] :=
  (List.getElem_eq_getD 0).symm

theorem portAt_mod (place : Nat) : portAt ports (place % ports.length) = portAt ports place := by
  rw [portAt, portAt, Nat.mod_mod]

theorem portAt_mem (hports : ports ≠ []) (place : Nat) : portAt ports place ∈ ports := by
  have hplace := Nat.mod_lt place (List.length_pos_iff.mpr hports)
  rw [portAt_eq_getElem hplace]
  exact List.getElem_mem hplace

theorem portAt_eq_iff (hsorted : ports.Pairwise (· < ·)) (hports : ports ≠ []) (place other : Nat) :
    portAt ports place = portAt ports other ↔ place ≡ other [MOD ports.length] := by
  have hpos := List.length_pos_iff.mpr hports
  have hdistinct : ports.Nodup := hsorted.imp Int.ne_of_lt
  rw [portAt_eq_getElem (Nat.mod_lt place hpos), portAt_eq_getElem (Nat.mod_lt other hpos),
    hdistinct.getElem_inj_iff]
  rfl

/-- In increasing ports, the first one that is greater stands behind those that are not. -/
theorem find?_greater (hsorted : ports.Pairwise (· < ·)) (port : Int) :
    ports.find? (fun other => decide (port < other)) =
      ports[ports.countP fun other => decide (other ≤ port)]? := by
  induction ports with
  | nil => rfl
  | cons first rest ih =>
      obtain ⟨hfirst, hrest⟩ := List.pairwise_cons.mp hsorted
      by_cases hgreater : port < first
      · have hnone : ((first :: rest).countP fun other => decide (other ≤ port)) = 0 := by
          refine List.countP_eq_zero.mpr fun other hother => ?_
          have hleast : first ≤ other := by
            rcases List.mem_cons.mp hother with rfl | hlater
            · exact Int.le_refl other
            · exact Int.le_of_lt (hfirst other hlater)
          simp only [decide_eq_true_eq]
          omega
        rw [hnone, List.getElem?_cons_zero, List.find?_cons, decide_eq_true hgreater]
      · have hle : first ≤ port := Int.not_lt.mp hgreater
        rw [List.countP_cons, if_pos (decide_eq_true hle), List.getElem?_cons_succ, ← ih hrest,
          List.find?_cons, decide_eq_false hgreater]

/-- The place of the port that follows a number is that of the numbers not greater than it. -/
theorem portAfter_eq (hsorted : ports.Pairwise (· < ·)) (hports : ports ≠ []) (port : Int) :
    portAfter ports port =
      some (portAt ports (ports.countP fun other => decide (other ≤ port))) := by
  have hpos := List.length_pos_iff.mpr hports
  have hcount : ports.countP (fun other => decide (other ≤ port)) ≤ ports.length :=
    List.countP_le_length
  rw [portAfter, find?_greater hsorted]
  rcases Nat.lt_or_eq_of_le hcount with hinside | hall
  · rw [portAt_eq_getElem (Nat.mod_lt _ hpos), List.getElem?_eq_getElem hinside, Option.some_or]
    simp only [Nat.mod_eq_of_lt hinside]
  · rw [portAt_eq_getElem (Nat.mod_lt _ hpos), hall, List.getElem?_eq_none (Nat.le_refl _),
      Option.none_or, List.head?_eq_getElem?, List.getElem?_eq_getElem hpos]
    simp only [Nat.mod_self]

/-- As many ports are not greater than the one at a place as there are places up to it. -/
theorem countP_le_getElem (hsorted : ports.Pairwise (· < ·)) {place : Nat}
    (hplace : place < ports.length) :
    (ports.countP fun other => decide (other ≤ ports[place])) = place + 1 := by
  induction ports generalizing place with
  | nil => cases hplace
  | cons first rest ih =>
      obtain ⟨hfirst, hrest⟩ := List.pairwise_cons.mp hsorted
      cases place with
      | zero =>
          have hnone : (rest.countP fun other => decide (other ≤ first)) = 0 := by
            refine List.countP_eq_zero.mpr fun other hother => ?_
            have hlater := hfirst other hother
            simp only [decide_eq_true_eq]
            omega
          rw [List.getElem_cons_zero, List.countP_cons, if_pos (decide_eq_true (Int.le_refl first)),
            hnone]
      | succ place =>
          have hinside : place < rest.length := Nat.lt_of_succ_lt_succ hplace
          have hless : first ≤ rest[place] := Int.le_of_lt (hfirst _ (List.getElem_mem hinside))
          rw [List.getElem_cons_succ, List.countP_cons, if_pos (decide_eq_true hless),
            ih hrest hinside]

/-- At the next place stands the next port. -/
theorem portAfter_portAt (hsorted : ports.Pairwise (· < ·)) (hports : ports ≠ []) (place : Nat) :
    portAfter ports (portAt ports place) = some (portAt ports (place + 1)) := by
  have hplace := Nat.mod_lt place (List.length_pos_iff.mpr hports)
  rw [portAfter_eq hsorted hports, portAt_eq_getElem hplace, countP_le_getElem hsorted hplace,
    ← portAt_mod, Nat.mod_add_mod, portAt_mod]

/-- The ports at some places in a row, from a place on. -/
def portsFrom (ports : List Int) (start count : Nat) : List Int :=
  (List.range' start count).map (portAt ports)

theorem length_portsFrom (start count : Nat) : (portsFrom ports start count).length = count := by
  rw [portsFrom, List.length_map, List.length_range']

theorem head?_portsFrom (start count : Nat) :
    (portsFrom ports start (count + 1)).head? = some (portAt ports start) := by
  rw [portsFrom, List.range'_succ, List.map_cons, List.head?_cons]

theorem getLast?_portsFrom (start count : Nat) :
    (portsFrom ports start (count + 1)).getLast? = some (portAt ports (start + count)) := by
  rw [portsFrom, List.range'_concat, List.map_append, List.map_singleton, List.getLast?_concat,
    Nat.one_mul]

theorem portsFrom_append (start count more : Nat) :
    portsFrom ports start count ++ portsFrom ports (start + count) more =
      portsFrom ports start (count + more) := by
  rw [portsFrom, portsFrom, portsFrom, ← List.map_append, ← List.range'_append, Nat.one_mul]

theorem portsFrom_mod (start count : Nat) :
    portsFrom ports (start % ports.length) count = portsFrom ports start count := by
  have hplaces (start : Nat) : portsFrom ports start count =
      (List.range count).map fun index => portAt ports (start + index) := by
    rw [portsFrom, List.range'_eq_map_range, List.map_map]
    rfl
  rw [hplaces, hplaces]
  refine List.map_congr_left fun index _ => ?_
  rw [← portAt_mod, Nat.mod_add_mod, portAt_mod]

/-- What a walk along some places begins with is a shorter walk from the same place. -/
theorem eq_portsFrom_of_prefix {start count : Nat} {walk : List Int}
    (hwalk : walk <+: portsFrom ports start count) :
    walk = portsFrom ports start walk.length := by
  have hlength : walk.length ≤ count := by
    have hle := hwalk.length_le
    rwa [length_portsFrom] at hle
  obtain ⟨more, rfl⟩ := Nat.exists_eq_add_of_le hlength
  rw [← portsFrom_append] at hwalk
  have hfront : walk <+: portsFrom ports start walk.length := by
    refine List.prefix_of_prefix_length_le hwalk (List.prefix_append _ _) ?_
    rw [length_portsFrom]
  exact hfront.eq_of_length (length_portsFrom _ _).symm

theorem mem_portsFrom (hports : ports ≠ []) {start count : Nat} {port : Int}
    (hport : port ∈ portsFrom ports start count) : port ∈ ports := by
  obtain ⟨place, -, rfl⟩ := List.mem_map.mp hport
  exact portAt_mem hports place

theorem isChain_portsFrom (hsorted : ports.Pairwise (· < ·)) (hports : ports ≠ [])
    (start count : Nat) :
    (portsFrom ports start count).IsChain fun port next => portAfter ports port = some next := by
  rw [portsFrom, List.isChain_map]
  refine (List.isChain_range' start count 1).imp fun place next hnext => ?_
  rw [hnext]
  exact portAfter_portAt hsorted hports place

/-- A round that begins at a place goes through all ports at the places from there on. -/
theorem rotate_eq_portsFrom {start : Nat} (hstart : start < ports.length) :
    rotate ports start = portsFrom ports start ports.length := by
  rw [rotate, ← List.rotate_eq_drop_append_take (Nat.le_of_lt hstart), portsFrom]
  refine List.ext_getElem (by simp) fun index hindex _ => ?_
  have hpos : 0 < ports.length := Nat.lt_of_le_of_lt (Nat.zero_le start) hstart
  rw [List.getElem_rotate, List.getElem_map, List.getElem_range', Nat.one_mul,
    portAt_eq_getElem (Nat.mod_lt _ hpos)]
  simp only [Nat.add_comm]

theorem rotate_perm (ports : List Int) (start : Nat) : (rotate ports start).Perm ports := by
  have hfront : (rotate ports start).Perm (ports.take start ++ ports.drop start) :=
    List.perm_append_comm
  rwa [List.take_append_drop] at hfront

theorem mem_rotate {start : Nat} {port : Int} : port ∈ rotate ports start ↔ port ∈ ports :=
  (rotate_perm ports start).mem_iff

/-! ### How often a port comes -/

theorem count_add_countP_range' (p : Nat → Prop) [DecidablePred p] (start count : Nat) :
    Nat.count p start + (List.range' start count).countP (fun place => decide (p place)) =
      Nat.count p (start + count) := by
  induction count with
  | zero => rfl
  | succ count ih =>
      rw [List.range'_concat, List.countP_append, ← Nat.add_assoc, ih, Nat.one_mul,
        List.countP_singleton, ← Nat.add_assoc, Nat.count_succ]
      simp only [decide_eq_true_eq]

theorem count_portsFrom (hsorted : ports.Pairwise (· < ·)) (hports : ports ≠ [])
    (start count place : Nat) :
    Nat.count (· ≡ place [MOD ports.length]) start +
        (portsFrom ports start count).count (portAt ports place) =
      Nat.count (· ≡ place [MOD ports.length]) (start + count) := by
  rw [← count_add_countP_range', portsFrom, List.count_eq_countP, List.countP_map]
  congr 2
  funext other
  rw [Function.comp_apply, beq_eq_decide]
  exact decide_eq_decide.mpr (portAt_eq_iff hsorted hports other place)

/-- At places in a row, no port stands more than once more often than another. -/
theorem count_portsFrom_le (hsorted : ports.Pairwise (· < ·)) {port other : Int}
    (hport : port ∈ ports) (hother : other ∈ ports) (start count : Nat) :
    (portsFrom ports start count).count port ≤ (portsFrom ports start count).count other + 1 := by
  have hports : ports ≠ [] := List.ne_nil_of_mem hport
  have hpos := List.length_pos_iff.mpr hports
  have hplace {port : Int} (hport : port ∈ ports) :
      ∃ place < ports.length, port = portAt ports place := by
    obtain ⟨place, hinside, rfl⟩ := List.mem_iff_getElem.mp hport
    refine ⟨place, hinside, ?_⟩
    rw [portAt_eq_getElem (Nat.mod_lt _ hpos)]
    simp only [Nat.mod_eq_of_lt hinside]
  obtain ⟨place, hinside, rfl⟩ := hplace hport
  obtain ⟨place', hinside', rfl⟩ := hplace hother
  have hcount := count_portsFrom hsorted hports start count place
  have hcount' := count_portsFrom hsorted hports start count place'
  simp only [Nat.count_modEq_card _ hpos] at hcount hcount'
  -- Up to any place all ports have come equally often, but for those of the round not yet closed.
  rw [Nat.mod_eq_of_lt hinside] at hcount
  rw [Nat.mod_eq_of_lt hinside'] at hcount'
  split_ifs at hcount hcount' <;> omega

/-- As many places in a row as there are ports hold all of them. -/
theorem mem_portsFrom_of_length_le (start : Nat) {count : Nat} (hcount : ports.length ≤ count)
    {port : Int} (hport : port ∈ ports) : port ∈ portsFrom ports start count := by
  have hstart := Nat.mod_lt start (List.length_pos_of_mem hport)
  have hround : port ∈ portsFrom ports start ports.length := by
    rw [← portsFrom_mod, ← rotate_eq_portsFrom hstart]
    exact mem_rotate.mpr hport
  obtain ⟨more, rfl⟩ := Nat.exists_eq_add_of_le hcount
  rw [← portsFrom_append]
  exact List.mem_append_left _ hround

end Round

end SubgraphLauncher
