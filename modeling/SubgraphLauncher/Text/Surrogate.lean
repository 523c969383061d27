/-!
# Halves of surrogate pairs

A document may name half of a surrogate pair on its own, which is no character. A text that does so
is a row of symbols. Where such a text has to be shown as it is, each half is held by a stand-in:
the character for private use that lies `0x100000` above it.
-/

namespace SubgraphLauncher.Text

/-- One place of a text: a character, or half of a surrogate pair on its own. -/
inductive Symbol
  | char (c : Char)
  | half (number : Nat)
  deriving DecidableEq, Repr

def isHighHalf (n : Nat) : Bool := decide (0xD800 ≤ n) && decide (n < 0xDC00)

def isLowHalf (n : Nat) : Bool := decide (0xDC00 ≤ n) && decide (n < 0xE000)

namespace Symbol

/-- The symbol that one code unit is. -/
def ofUnit (n : Nat) : Symbol := if isHighHalf n || isLowHalf n then half n else char (Char.ofNat n)

/-- The symbol that a high and a low half make together. -/
def ofHalves (high low : Nat) : Symbol :=
  char (Char.ofNat (0x10000 + (high - 0xD800) * 0x400 + (low - 0xDC00)))

def char? : Symbol → Option Char
  | char c => some c
  | half _ => none

/-- The character that shows a symbol. -/
def shown : Symbol → Char
  | char c => c
  | half n => Char.ofNat (0x100000 + n)

end Symbol

def rowOf (s : String) : List Symbol := s.toList.map Symbol.char

def shownRow (row : List Symbol) : String := String.ofList (row.map Symbol.shown)

end SubgraphLauncher.Text
