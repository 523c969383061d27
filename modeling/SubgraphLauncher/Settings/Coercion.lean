import SubgraphLauncher.Decimal.Numeral
import SubgraphLauncher.Failure
import SubgraphLauncher.Value.Written

/-!
# Values made alike

An override takes the type of the value that it replaces. A missing value is taken as it is, and so
is any value where nothing was set before. The other types are reached by reading, rounding, cutting
off or listing, each of which may be impossible for a value.
-/

namespace SubgraphLauncher

open SubgraphLauncher.Decimal

/-- Why a value cannot be made alike another. A text that is at fault is given in quotes. -/
inductive CoercionFault
  | notWhole (text : String)
  | tooLong (digits : Nat)
  | noWhole (typeName : String)
  | nanWhole
  | infiniteWhole
  | notFraction (text : String)
  | noFraction (typeName : String)
  | tooLarge
  | notIterable (typeName : String)
  | notPair (index : Nat)
  | pairLength (index length : Nat)
  | unhashable (typeName : String)
  deriving DecidableEq, Repr

namespace CoercionFault

def message : CoercionFault → String
  | notWhole text =>
    "invalid literal for int() with base 10: " ++ String.ofList (text.toList.take 200)
  | tooLong digits =>
    "Exceeds the limit (" ++ toString digitLimit ++
      " digits) for integer string conversion: value has " ++ toString digits ++
      " digits; use sys.set_int_max_str_digits() to increase the limit"
  | noWhole typeName =>
    "int() argument must be a string, a bytes-like object or a real number, not '" ++ typeName ++
      "'"
  | nanWhole => "cannot convert float NaN to integer"
  | infiniteWhole => "cannot convert float infinity to integer"
  | notFraction text => "could not convert string to float: " ++ text
  | noFraction typeName =>
    "float() argument must be a string or a real number, not '" ++ typeName ++ "'"
  | tooLarge => "int too large to convert to float"
  | notIterable typeName => "'" ++ typeName ++ "' object is not iterable"
  | notPair index =>
    "cannot convert dictionary update sequence element #" ++ toString index ++ " to a sequence"
  | pairLength index length =>
    "dictionary update sequence element #" ++ toString index ++ " has length " ++ toString length ++
      "; 2 is required"
  | unhashable typeName => "unhashable type: '" ++ typeName ++ "'"

def failureClass : CoercionFault → FailureClass
  | notWhole _ | tooLong _ | nanWhole | notFraction _ | pairLength _ _ => .valueError
  | noWhole _ | noFraction _ | notIterable _ | notPair _ | unhashable _ => .typeError
  | infiniteWhole | tooLarge => .overflowError

def failure {τ : Type} (fault : CoercionFault) : Failure τ :=
  .other fault.failureClass (some fault.message)

/-- Whether a value that is at fault is left out; otherwise the settings cannot be loaded. -/
def isSkipped (fault : CoercionFault) : Bool :=
  fault.failureClass == .valueError || fault.failureClass == .typeError

end CoercionFault

namespace Value

def yesWords : List String := ["true", "1", "t", "yes", "y"]

/-- Whether the display form of a value is a yes, in any mixture of cases. No character but the
ASCII letters has one of their lower-case forms. -/
def isYes (value : Value) : Bool :=
  yesWords.contains (String.ofList (value.shown.toList.map Char.toLower))

/-- The number that a text stands for, or the text in quotes as the fault. -/
def wholeOf (value : Value) : Except CoercionFault Int :=
  match readWhole value.shown.toList with
  | .ok n => .ok n
  | .error .malformed => .error (.notWhole value.written)
  | .error (.tooLong digits) => .error (.tooLong digits)

def toWhole : Value → Except CoercionFault Int
  | bool b => .ok (if b then 1 else 0)
  | int n => .ok n
  | float x =>
    match Binary.ofFloat x with
    | .nan => .error .nanWhole
    | .infinite _ => .error .infiniteWhole
    | .finite negative mantissa exponent => .ok (truncate negative mantissa exponent)
  | text s => (text s).wholeOf
  | symbols row => (symbols row).wholeOf
  | other => .error (.noWhole other.typeName)

/-- The double nearest to an integer, if it is in their range. -/
def doubleOf (n : Int) : Except CoercionFault Float :=
  let size := nearestDouble n.natAbs 0
  if size.isInf then .error .tooLarge else .ok (if n < 0 then -size else size)

def toFraction : Value → Except CoercionFault Float
  | bool b => .ok (if b then 1.0 else 0.0)
  | int n => doubleOf n
  | float x => .ok x
  | text s =>
    match readFraction? s.toList with
    | some x => .ok x
    | none => .error (.notFraction (text s).written)
  | symbols row => .error (.notFraction (symbols row).written)
  | other => .error (.noFraction other.typeName)

def items : Value → Except CoercionFault (List Value)
  | list xs => .ok xs
  | tuple xs => .ok xs
  | object entries => .ok (entries.map (·.1))
  | text s => .ok (s.toList.map fun c => text (String.ofList [c]))
  | symbols row => .ok (row.map fun symbol => ofSymbols [symbol])
  | other => .error (.notIterable other.typeName)

def rational? : Value → Option Rat
  | bool b => some (if b then 1 else 0)
  | int n => some n
  | float x =>
    match Binary.ofFloat x with
    | .finite negative mantissa exponent =>
      let size := mantissa * twoPow exponent
      some (if negative then -size else size)
    | _ => none
  | _ => none

/-- Whether two keys are one. Numbers of different types are when they are equal, and documents
know one NaN only, which is the same key wherever it stands. -/
def sameKey : Value → Value → Bool
  | text a, text b => a == b
  | symbols a, symbols b => a == b
  | null, null => true
  | float x, float y => x == y || (x.isNaN && y.isNaN)
  | a, b =>
    match a.rational?, b.rational? with
    | some x, some y => x == y
    | _, _ => false

/-- Stores an entry: a key that is there keeps its place and takes the new value. -/
def put (key value : Value) : List (Value × Value) → List (Value × Value)
  | [] => [(key, value)]
  | (k, old) :: rest =>
    if k.sameKey key then (k, value) :: rest else (k, old) :: put key value rest

/-- The entry that an item of a sequence stands for. -/
def pair (index : Nat) (item : Value) : Except CoercionFault (Value × Value) := do
  let parts ← item.items.mapError fun _ => .notPair index
  match parts with
  | [key, value] =>
    match key with
    | list _ | object _ => .error (.unhashable key.typeName)
    | _ => return (key, value)
  | _ => .error (.pairLength index parts.length)

def entriesFrom (index : Nat) (done : List (Value × Value)) :
    List Value → Except CoercionFault (List (Value × Value))
  | [] => .ok done
  | item :: rest => do
    let (key, value) ← pair index item
    entriesFrom (index + 1) (put key value done) rest

def toEntries : Value → Except CoercionFault (List (Value × Value))
  | object entries => .ok entries
  | other => do entriesFrom 0 [] (← other.items)

/-- The text that shows a value, which a text itself is. -/
def toText : Value → Value
  | symbols row => symbols row
  | value => text value.shown

/-- Makes a value alike another one. A text that replaces a fixed sequence is its only item. -/
def alike (sample value : Value) : Except CoercionFault Value :=
  match value, sample with
  | null, _ => .ok null
  | value, null => .ok value
  | value, bool _ => .ok (bool value.isYes)
  | text s, tuple _ => .ok (tuple [text s])
  | symbols row, tuple _ => .ok (tuple [symbols row])
  | value, tuple _ => value.items.map tuple
  | value, int _ => value.toWhole.map int
  | value, float _ => value.toFraction.map float
  | value, text _ | value, symbols _ => .ok value.toText
  | value, list _ => value.items.map list
  | value, object _ => value.toEntries.map object

end Value

end SubgraphLauncher
