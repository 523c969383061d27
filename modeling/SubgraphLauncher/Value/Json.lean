import SubgraphLauncher.Value.Basic
import SubgraphLauncher.Decimal.Numeral

/-!
# Reading JSON

A document is read from left to right. The reader also takes `NaN` and the infinities as numbers,
keeps whole numbers exact, and lets the last of several members with one key win at the place of
the first. Brackets may be nested only so deep. Where a rule fails, the fault holds the rule and
what was left to read, from which the line and the column follow.
-/

namespace SubgraphLauncher.Json

open SubgraphLauncher.Decimal
open SubgraphLauncher.Text (Symbol isHighHalf isLowHalf)

/-- How many brackets may be open at once. -/
def nestingLimit : Nat := 988

inductive Rule
  | value
  | name
  | colon
  | comma
  | extra
  | unterminated
  | control
  | escape
  | unit
  | mark
  deriving DecidableEq, Repr

def Rule.message : Rule → String
  | value => "Expecting value"
  | name => "Expecting property name enclosed in double quotes"
  | colon => "Expecting ':' delimiter"
  | comma => "Expecting ',' delimiter"
  | extra => "Extra data"
  | unterminated => "Unterminated string starting at"
  | control => "Invalid control character at"
  | escape => "Invalid \\escape"
  | unit => "Invalid \\uXXXX escape"
  | mark => "Unexpected UTF-8 BOM (decode using utf-8-sig)"

/-- What brackets enclose. -/
inductive Shape
  | array
  | object
  deriving DecidableEq, Repr

def Shape.name : Shape → String
  | array => "array"
  | object => "object"

/-- Why reading stopped: a rule failed in front of `rest`, a whole number had too many digits, or
one bracket too many was opened. -/
inductive Stop
  | broken (rule : Rule) (rest : List Char)
  | tooLong (digits : Nat)
  | tooDeep (shape : Shape)

def isSpace (c : Char) : Bool := c == ' ' || c == '\t' || c == '\n' || c == '\r'

def skip (s : List Char) : List Char := s.dropWhile isSpace

/-- The character that a backslash and a letter stand for. -/
def simpleEscape? : Char → Option Char
  | '"' => some '"'
  | '\\' => some '\\'
  | '/' => some '/'
  | 'b' => some '\x08'
  | 'f' => some '\x0c'
  | 'n' => some '\n'
  | 'r' => some '\r'
  | 't' => some '\t'
  | _ => none

def hexValue? (c : Char) : Option Nat :=
  if '0' ≤ c ∧ c ≤ '9' then some (c.toNat - '0'.toNat)
  else if 'a' ≤ c ∧ c ≤ 'f' then some (c.toNat - 'a'.toNat + 10)
  else if 'A' ≤ c ∧ c ≤ 'F' then some (c.toNat - 'A'.toNat + 10)
  else none

/-- The code unit written by four hexadecimal digits, which another character has to follow. -/
def unit? (s : List Char) : Option Nat :=
  if (s.drop 4).isEmpty then none
  else (s.take 4).foldlM (fun n c => (hexValue? c).map (16 * n + ·)) 0

/-- The second half of a pair, if one is written at the start of the text. -/
def lowHalf? : List Char → Except Stop (Option Nat)
  | '\\' :: 'u' :: more =>
    if (more.drop 4).isEmpty then .ok none
    else match unit? more with
      | none => .error (.broken .unit ('u' :: more))
      | some n => .ok (if isLowHalf n then some n else none)
  | _ => .ok none

/-- Reads the symbols of a text up to its closing quote; `start` is the text from the opening
quote on. -/
def readText (start : List Char) : List Char → Except Stop (List Symbol × List Char)
  | [] => .error (.broken .unterminated start)
  | '"' :: rest => .ok ([], rest)
  | '\\' :: [] => .error (.broken .unterminated start)
  | '\\' :: 'u' :: more =>
    match unit? more with
    | none => .error (.broken .unit ('u' :: more))
    | some n =>
      let rest := more.drop 4
      if isHighHalf n then do
        match ← lowHalf? rest with
        | some low =>
          let (row, left) ← readText start (rest.drop 6)
          return (Symbol.ofHalves n low :: row, left)
        | none =>
          let (row, left) ← readText start rest
          return (Symbol.ofUnit n :: row, left)
      else do
        let (row, left) ← readText start rest
        return (Symbol.ofUnit n :: row, left)
  | '\\' :: c :: more =>
    match simpleEscape? c with
    | none => .error (.broken .escape ('\\' :: c :: more))
    | some d => do
      let (row, left) ← readText start more
      return (.char d :: row, left)
  | c :: more =>
    if c < ' ' then .error (.broken .control (c :: more))
    else do
      let (row, left) ← readText start more
      return (.char c :: row, left)
  termination_by s => s.length
  decreasing_by all_goals simp only [List.length_cons, List.length_drop]; omega

/-- The whole part of a number: a zero, or digits that do not start with one. -/
def wholeDigits (s : List Char) : List Char :=
  match s with
  | '0' :: _ => ['0']
  | _ => s.takeWhile isAsciiDigit

/-- A point and at least one digit. -/
def fractionPart : List Char → List Char
  | '.' :: rest =>
    let digits := rest.takeWhile isAsciiDigit
    if digits.isEmpty then [] else '.' :: digits
  | _ => []

/-- An `e`, a sign that may be missing, and at least one digit. -/
def exponentPart : List Char → List Char
  | c :: rest =>
    if c == 'e' || c == 'E' then
      let sign := match rest with
        | '-' :: _ => ['-']
        | '+' :: _ => ['+']
        | _ => []
      let digits := (rest.drop sign.length).takeWhile isAsciiDigit
      if digits.isEmpty then [] else c :: sign ++ digits
    else []
  | [] => []

/-- Reads a number: whole when it has neither fraction nor exponent. -/
def readNumber (s : List Char) : Except Stop (Value × List Char) :=
  let sign := match s with
    | '-' :: _ => ['-']
    | _ => []
  let body := s.drop sign.length
  let whole := wholeDigits body
  if whole.isEmpty then .error (.broken .value s)
  else
    let afterWhole := body.drop whole.length
    let fraction := fractionPart afterWhole
    let afterFraction := afterWhole.drop fraction.length
    let exponent := exponentPart afterFraction
    let rest := afterFraction.drop exponent.length
    if fraction.isEmpty && exponent.isEmpty then
      if digitLimit < whole.length then .error (.tooLong whole.length)
      else .ok (.int (withSign (!sign.isEmpty) (positional whole)), rest)
    else
      .ok (.float ((readFraction? (sign ++ whole ++ fraction ++ exponent)).getD 0.0), rest)

/-- The values that are written as a word. -/
def wordValues : List (String × Value) :=
  [("null", .null), ("true", .bool true), ("false", .bool false), ("NaN", .float (0.0 / 0.0)),
   ("Infinity", .float (1.0 / 0.0)), ("-Infinity", .float (-1.0 / 0.0))]

def readWord? (s : List Char) : Option (Value × List Char) :=
  wordValues.findSome? fun (word, value) =>
    if word.toList.isPrefixOf s then some (value, s.drop word.length) else none

/-- Whether two texts are one. -/
def sameText : Value → Value → Bool
  | .text a, .text b => a == b
  | .symbols a, .symbols b => a == b
  | _, _ => false

/-- Stores an entry: a key that is there keeps its place and takes the new value. -/
def putEntry (key value : Value) : List (Value × Value) → List (Value × Value)
  | [] => [(key, value)]
  | (k, old) :: rest =>
    if sameText k key then (k, value) :: rest else (k, old) :: putEntry key value rest

/-- The entries of an object whose members are written in this order. -/
def collect (members : List (Value × Value)) : List (Value × Value) :=
  members.foldl (fun entries member => putEntry member.1 member.2 entries) []

/-- What follows an item: the closing bracket, or a comma and more. -/
def readDelimiter (close : Char) (s : List Char) : Except Stop (Bool × List Char) :=
  match skip s with
  | [] => .error (.broken .comma [])
  | c :: rest =>
    if c = close then .ok (true, rest)
    else if c = ',' then .ok (false, skip rest)
    else .error (.broken .comma (c :: rest))

/-- A key and the colon after it. -/
def readKey (s : List Char) : Except Stop (Value × List Char) :=
  match s with
  | '"' :: rest => do
    let (key, left) ← readText s rest
    match skip left with
    | ':' :: more => return (.ofSymbols key, skip more)
    | other => .error (.broken .colon other)
  | _ => .error (.broken .name s)

mutual

/-- Reads one value, inside which `room` brackets may be open at once. The first argument bounds the
number of steps: a bracket takes two and an item one, so twice the length of the text and one more
are always enough. -/
def readValue : Nat → Nat → List Char → Except Stop (Value × List Char)
  | 0, _, s => .error (.broken .value s)
  | fuel + 1, room, s =>
    match s with
    | '"' :: rest => do
      let (row, left) ← readText s rest
      return (.ofSymbols row, left)
    | '[' :: rest =>
      if room = 0 then .error (.tooDeep .array)
      else match skip rest with
        | ']' :: left => .ok (.list [], left)
        | left => readItems fuel (room - 1) [] left
    | '\x7b' :: rest =>
      if room = 0 then .error (.tooDeep .object)
      else match skip rest with
        | '\x7d' :: left => .ok (.object [], left)
        | left => do
          let (members, left) ← readMembers fuel (room - 1) left
          return (.object (collect members), left)
    | _ =>
      match readWord? s with
      | some found => .ok found
      | none => readNumber s

def readItems : Nat → Nat → List Value → List Char → Except Stop (Value × List Char)
  | 0, _, _, s => .error (.broken .value s)
  | fuel + 1, room, done, s => do
    let (item, left) ← readValue fuel room s
    let (closed, rest) ← readDelimiter ']' left
    if closed then return (.list (item :: done).reverse, rest)
    else readItems fuel room (item :: done) rest

/-- Reads the members of an object as they are written, up to its closing bracket. -/
def readMembers : Nat → Nat → List Char → Except Stop (List (Value × Value) × List Char)
  | 0, _, s => .error (.broken .value s)
  | fuel + 1, room, s => do
    let (key, afterKey) ← readKey s
    let (value, left) ← readValue fuel room afterKey
    let (closed, rest) ← readDelimiter '\x7d' left
    if closed then return ([(key, value)], rest)
    else
      let (more, rest) ← readMembers fuel room rest
      return ((key, value) :: more, rest)

end

/-- A document is one value between blanks. -/
def readDocument (s : List Char) : Except Stop Value :=
  match s with
  | '\uFEFF' :: _ => .error (.broken .mark s)
  | _ => do
    let (value, left) ← readValue (2 * s.length + 1) nestingLimit (skip s)
    match skip left with
    | [] => return value
    | rest => .error (.broken .extra rest)

/-- Why a text is no document. -/
inductive Fault
  | malformed (rule : Rule) (line column offset : Nat)
  | tooLong (digits : Nat)
  | tooDeep (shape : Shape)
  deriving DecidableEq, Repr

def Fault.message : Fault → String
  | malformed rule line column offset =>
    s!"{rule.message}: line {line} column {column} (char {offset})"
  | tooLong digits =>
    s!"Exceeds the limit ({digitLimit} digits) for integer string conversion: value has " ++
      s!"{digits} digits; use sys.set_int_max_str_digits() to increase the limit"
  | tooDeep shape =>
    s!"maximum recursion depth exceeded while decoding a JSON {shape.name} from a unicode string"

/-- Places a stop in the text it happened in: lines and columns count from one. -/
def Stop.locate (text : List Char) : Stop → Fault
  | tooLong digits => .tooLong digits
  | tooDeep shape => .tooDeep shape
  | broken rule rest =>
    let before := text.take (text.length - rest.length)
    let column := (before.reverse.takeWhile (· != '\n')).length + 1
    .malformed rule (before.count '\n' + 1) column before.length

def parse (text : List Char) : Except Fault Value :=
  (readDocument text).mapError (Stop.locate text)

end SubgraphLauncher.Json
