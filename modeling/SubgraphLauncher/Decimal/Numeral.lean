import SubgraphLauncher.Text.Blank
import SubgraphLauncher.Text.Digit

/-!
# Reading numerals

A numeral may be padded with blanks, carry a sign, use the decimal digits of any script and separate
digits by single underscores. Whole numerals are exact and limited in length; fractional ones are
rounded to the nearest double.
-/

namespace SubgraphLauncher.Decimal

open SubgraphLauncher.Text

def digitLimit : Nat := 4300

inductive NumeralFault
  | malformed
  | tooLong (digits : Nat)
  deriving DecidableEq, Repr

/-- Whether a character may pad a numeral: a blank, unless it is a separator of records. -/
def isPadding (c : Char) : Bool := isBlank c && !(decide ('\x1c' ≤ c) && decide (c ≤ '\x1f'))

/-- The text of a numeral with its decimal digits in ASCII and without its padding. -/
def plainNumeral (s : List Char) : List Char :=
  let unpadded := (s.dropWhile isPadding).reverse.dropWhile isPadding
  unpadded.reverse.map fun c => match decimalValue? c with
    | some d => Nat.digitChar d
    | none => c

def isAsciiDigit (c : Char) : Bool := decide ('0' ≤ c) && decide (c ≤ '9')

def digitValue (c : Char) : Nat := c.toNat - '0'.toNat

/-- The number that a row of ASCII digits stands for. -/
def positional (digits : List Char) : Nat := digits.foldl (fun n c => 10 * n + digitValue c) 0

/-- Splits off a leading sign; the flag says whether it is a minus. -/
def splitSign : List Char → Bool × List Char
  | '-' :: rest => (true, rest)
  | '+' :: rest => (false, rest)
  | s => (false, s)

def withSign (negative : Bool) (n : Nat) : Int := if negative then -(n : Int) else n

/-- Removes the underscores of a text, each of which has to stand between two digits. -/
def joinGroups : Option Char → List Char → Option (List Char)
  | _, [] => some []
  | before, '_' :: rest =>
    match before, rest with
    | some b, c :: _ =>
      if isAsciiDigit b && isAsciiDigit c then joinGroups (some '_') rest else none
    | _, _ => none
  | _, c :: rest => (joinGroups (some c) rest).map (c :: ·)

def readWhole (s : List Char) : Except NumeralFault Int :=
  let (negative, body) := splitSign (plainNumeral s)
  let run := body.takeWhile fun c => isAsciiDigit c || c == '_'
  match joinGroups none run with
  | none => .error .malformed
  | some digits =>
    if digitLimit < digits.length then .error (.tooLong digits.length)
    else if digits.isEmpty || run.length != body.length then .error .malformed
    else .ok (withSign negative (positional digits))

/-- The double nearest to `mantissa · 10 ^ exponent`. Numbers beyond the range of doubles are
settled by their order of magnitude alone. -/
def nearestDouble (mantissa : Nat) (exponent : Int) : Float :=
  let order := (Nat.toDigits 10 mantissa).length + exponent
  if mantissa = 0 ∨ order < -400 then 0.0
  else if 400 < order then 1.0 / 0.0
  else match exponent with
    | .ofNat n => Float.ofScientific mantissa false n
    | .negSucc n => Float.ofScientific mantissa true (n + 1)

/-- The exponent at the end of a fractional numeral: nothing, or `e` and a signed row of digits. -/
def readExponent : List Char → Option Int
  | [] => some 0
  | c :: rest =>
    if c == 'e' || c == 'E' then
      let (negative, digits) := splitSign rest
      if digits.isEmpty || !digits.all isAsciiDigit then none
      else some (withSign negative (positional digits))
    else none

/-- An unsigned fractional numeral in ASCII: digits with at most one point, then an exponent. -/
def readUnsigned (s : List Char) : Option Float :=
  let whole := s.takeWhile isAsciiDigit
  let afterWhole := s.drop whole.length
  let (fraction, afterFraction) := match afterWhole with
    | '.' :: rest =>
      let digits := rest.takeWhile isAsciiDigit
      (digits, rest.drop digits.length)
    | rest => ([], rest)
  if whole.isEmpty && fraction.isEmpty then none
  else (readExponent afterFraction).map fun exponent =>
    nearestDouble (positional (whole ++ fraction)) (exponent - fraction.length)

/-- The names of the doubles that no digits stand for, in any mixture of cases. -/
def namedDouble? (s : List Char) : Option Float :=
  let name := String.ofList (s.map Char.toLower)
  if name == "inf" || name == "infinity" then some (1.0 / 0.0)
  else if name == "nan" then some (0.0 / 0.0)
  else none

def readFraction? (s : List Char) : Option Float := do
  let plain ← joinGroups none (plainNumeral s)
  let (negative, body) := splitSign plain
  let size ← (namedDouble? body).or (readUnsigned body)
  return if negative then -size else size

end SubgraphLauncher.Decimal
