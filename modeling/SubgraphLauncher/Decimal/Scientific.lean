/-!
# Decimal digits of a rational

A positive rational is read off on a decimal grid: the multiples of a power of ten. The grid fixes
the digits and the place of the point, and a `Layout` says how the two are written down.
-/

namespace SubgraphLauncher.Decimal

def tenPow : Int → Rat
  | .ofNat n => (Nat.pow 10 n : Nat)
  | .negSucc n => 1 / ((Nat.pow 10 (n + 1) : Nat) : Rat)

/-- The exponent of the leading digit of a positive rational. -/
def magnitude (v : Rat) : Int :=
  let guess : Int :=
    ((Nat.toDigits 10 v.num.natAbs).length : Int) - ((Nat.toDigits 10 v.den).length : Int)
  if tenPow guess ≤ v then guess else guess - 1

/-- The nearest integer, and of two that are equally near the even one. -/
def roundHalfEven (v : Rat) : Int :=
  let below := v.floor
  let gap := v - below
  if gap < 1 / 2 then below
  else if 1 / 2 < gap then below + 1
  else if below % 2 = 0 then below
  else below + 1

/-- Digits `d₁d₂…` that stand for `0.d₁d₂… · 10 ^ point`, with no zero at the end. -/
structure Scientific where
  digits : List Char
  point : Int
  deriving DecidableEq, Repr

/-- The digits of the `count`-th multiple of `10 ^ unit`. -/
def Scientific.ofGrid (count : Nat) (unit : Int) : Scientific :=
  let digits := Nat.toDigits 10 count
  ⟨(digits.reverse.dropWhile (· == '0')).reverse, unit + digits.length⟩

/-- How digits are laid out: positional from `10 ^ (-4)` up to, but not including, `10 ^ limit`,
and with an exponent outside; whole numbers may keep a point and a zero. -/
structure Layout where
  limit : Int
  keepPoint : Bool

/-- An exponent has a sign and at least two digits. -/
def exponentText (e : Int) : List Char :=
  let digits := Nat.toDigits 10 e.natAbs
  'e' :: (if e < 0 then '-' else '+') :: List.replicate (2 - digits.length) '0' ++ digits

def Layout.write (layout : Layout) (s : Scientific) : List Char :=
  let exponent := s.point - 1
  if -4 ≤ exponent ∧ exponent < layout.limit then
    if s.point ≤ 0 then '0' :: '.' :: List.replicate (-s.point).toNat '0' ++ s.digits
    else
      let whole := s.digits.take s.point.toNat
      let fraction := s.digits.drop s.point.toNat
      let padded := whole ++ List.replicate (s.point.toNat - whole.length) '0'
      if fraction.isEmpty then padded ++ (if layout.keepPoint then ['.', '0'] else [])
      else padded ++ '.' :: fraction
  else
    let mantissa := match s.digits with
      | [] => []
      | [d] => [d]
      | d :: more => d :: '.' :: more
    mantissa ++ exponentText exponent

/-- Six significant digits, no idle zeros, and an exponent from a million on. -/
def briefLayout : Layout := ⟨6, false⟩

def briefRational (v : Rat) : List Char :=
  if v = 0 then ['0']
  else
    let size := if v < 0 then -v else v
    let unit := magnitude size - 5
    let count := (roundHalfEven (size / tenPow unit)).toNat
    (if v < 0 then ['-'] else []) ++ briefLayout.write (.ofGrid count unit)

end SubgraphLauncher.Decimal
