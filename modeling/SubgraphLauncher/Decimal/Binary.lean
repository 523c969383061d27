import SubgraphLauncher.Decimal.Scientific

/-!
# Binary floating point as text

A finite double is an integer times a power of two. Its shortest text has the fewest digits that
still lie among the reals which round to it, and of those with that many digits the nearest.
-/

namespace SubgraphLauncher.Decimal

inductive Binary
  | nan
  | infinite (negative : Bool)
  | finite (negative : Bool) (mantissa : Nat) (exponent : Int)
  deriving DecidableEq, Repr

def Binary.ofFloat (x : Float) : Binary :=
  let bits := x.toBits.toNat
  let negative := decide (Nat.pow 2 63 ≤ bits)
  let field : Nat := bits / Nat.pow 2 52 % Nat.pow 2 11
  let fraction : Nat := bits % Nat.pow 2 52
  if field = 2047 then if fraction = 0 then .infinite negative else .nan
  else if field = 0 then .finite negative fraction (-1074)
  else .finite negative (fraction + Nat.pow 2 52) ((field : Int) - 1075)

def twoPow : Int → Rat
  | .ofNat n => (Nat.pow 2 n : Nat)
  | .negSucc n => 1 / ((Nat.pow 2 (n + 1) : Nat) : Rat)

/-- The reals that round to `mantissa · 2 ^ exponent` lie between two bounds, which belong to them
when the mantissa is even. Below a power of two the neighbour is at half the distance. -/
structure Rounding where
  value : Rat
  low : Rat
  high : Rat
  closed : Bool

def Rounding.of (mantissa : Nat) (exponent : Int) : Rounding :=
  let unit := twoPow exponent
  let value := mantissa * unit
  let below := if mantissa = Nat.pow 2 52 ∧ -1074 < exponent then unit / 4 else unit / 2
  ⟨value, value - below, value + unit / 2, mantissa % 2 = 0⟩

def Rounding.contains (r : Rounding) (v : Rat) : Bool :=
  if r.closed then decide (r.low ≤ v) && decide (v ≤ r.high)
  else decide (r.low < v) && decide (v < r.high)

/-- The multiple of `10 ^ unit` next to the value that rounds to it, if there is one. -/
def Rounding.onGrid? (r : Rounding) (unit : Int) : Option Nat :=
  let step := tenPow unit
  let below := (r.value / step).floor.toNat
  let above := below + 1
  match r.contains (below * step), r.contains (above * step) with
  | true, true => some (roundHalfEven (r.value / step)).toNat
  | true, false => some below
  | false, true => some above
  | false, false => none

/-- The fewest digits that round to the value; seventeen always do. -/
def Rounding.shortest (r : Rounding) : Scientific :=
  let top := magnitude r.value
  let found := (List.range 16).findSome? fun places : Nat =>
    let unit := top - places
    (r.onGrid? unit).map fun count => (count, unit)
  match found with
  | some (count, unit) => .ofGrid count unit
  | none => .ofGrid (roundHalfEven (r.value / tenPow (top - 16))).toNat (top - 16)

/-- The shortest text is positional below `10 ^ 16` and marks whole numbers with a point. -/
def shortestLayout : Layout := ⟨16, true⟩

def signText (negative : Bool) : List Char := if negative then ['-'] else []

/-- The shortest text that reads back as the same double. -/
def shortestText (x : Float) : String :=
  String.ofList <| match Binary.ofFloat x with
    | .nan => "nan".toList
    | .infinite negative => signText negative ++ "inf".toList
    | .finite negative mantissa exponent =>
      signText negative ++
        if mantissa = 0 then "0.0".toList
        else shortestLayout.write (Rounding.of mantissa exponent).shortest

def briefText (x : Float) : String :=
  String.ofList <| match Binary.ofFloat x with
    | .nan => "nan".toList
    | .infinite negative => signText negative ++ "inf".toList
    | .finite negative mantissa exponent =>
      signText negative ++ briefRational (mantissa * twoPow exponent)

def truncate (negative : Bool) (mantissa : Nat) (exponent : Int) : Int :=
  let size : Nat := match exponent with
    | .ofNat n => mantissa * Nat.pow 2 n
    | .negSucc n => mantissa / Nat.pow 2 (n + 1)
  if negative then -(size : Int) else size

end SubgraphLauncher.Decimal
