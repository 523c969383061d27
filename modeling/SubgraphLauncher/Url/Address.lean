import SubgraphLauncher.Text.Cut

/-!
# Internet addresses as text

Four decimal octets, or eight groups of hexadecimal digits of which one run of zeros may be left out
and the last two may be written as octets. An address of the second kind may carry a scope.
-/

namespace SubgraphLauncher.Url

open SubgraphLauncher.Text (cut splitFirst)

inductive Version
  | four
  | six
  deriving DecidableEq, Repr

def isDecimal (c : Char) : Bool := decide ('0' ≤ c) && decide (c ≤ '9')

def isHex (c : Char) : Bool :=
  isDecimal c || (decide ('a' ≤ c) && decide (c ≤ 'f')) || (decide ('A' ≤ c) && decide (c ≤ 'F'))

/-- One to three digits without a leading zero, at most 255. -/
def isOctet (s : List Char) : Bool :=
  !s.isEmpty && s.all isDecimal && decide (s.length ≤ 3) && (s == ['0'] || s.head? != some '0') &&
    decide (s.foldl (fun n c => 10 * n + (c.toNat - '0'.toNat)) 0 ≤ 255)

def isFour (s : List Char) : Bool :=
  let parts := cut (· == '.') s
  parts.length == 4 && parts.all isOctet

def isGroup (s : List Char) : Bool := !s.isEmpty && s.all isHex && decide (s.length ≤ 4)

/-- The parts between colons, with four octets at the end counted as two groups. -/
def groups (s : List Char) : List (List Char) :=
  let parts := cut (· == ':') s
  match parts.getLast? with
  | some last => if isFour last then parts.dropLast ++ [['0'], ['0']] else parts
  | none => parts

/-- One side of the gap: where it is empty, the gap reaches to the end of the address. -/
def side (parts : List (List Char)) : List (List Char) := if parts == [[]] then [] else parts

/-- The groups with the first gap between two of them taken out, and whether there was one. -/
def splitGap (parts : List (List Char)) : Option (List (List Char) × List (List Char)) :=
  match parts with
  | [] => none
  | first :: rest =>
    let before := rest.takeWhile fun part => !part.isEmpty
    match rest.drop before.length with
    | _ :: after => if after.isEmpty then none else some (first :: before, after)
    | [] => none

def isSixWithoutScope (s : List Char) : Bool :=
  let parts := groups s
  match splitGap parts with
  | none => parts.length == 8 && parts.all isGroup
  | some (before, after) =>
    let both := side before ++ side after
    decide (both.length ≤ 7) && both.all isGroup

def isSix (s : List Char) : Bool :=
  !s.contains '/' && match splitFirst '%' s with
    | (address, none) => isSixWithoutScope address
    | (address, some scope) => !scope.isEmpty && !scope.contains '%' && isSixWithoutScope address

/-- Which kind of address a text is, if it is one. -/
def version? (s : List Char) : Option Version :=
  if isFour s then some .four else if isSix s then some .six else none

end SubgraphLauncher.Url
