import SubgraphLauncher.Text.Surrogate
import SubgraphLauncher.Text.Utf8

/-!
# Names on the host

The host knows names as bytes. Characters are written in UTF-8, and a half of a surrogate pair from
`0xDC80` to `0xDCFF` is the byte with its last two digits, so that bytes that make up no character
have a text as well. The other halves cannot be written. Bytes that make up a character are read as
that character, whatever they were written from.
-/

namespace SubgraphLauncher

open SubgraphLauncher.Text (Symbol)

/-- The `count` symbols from `first` on cannot be written; `number` is that of the first of them. -/
structure NameFault where
  first : Nat
  count : Nat
  number : Nat
  deriving DecidableEq, Repr

namespace Name

/-- The byte that a half stands for. -/
def byte? (half : Nat) : Option UInt8 :=
  if 0xDC80 ≤ half ∧ half < 0xDD00 then some (half - 0xDC00).toUInt8 else none

/-- The bytes of a row of symbols whose first one stands at `position`. A fault reaches to the last
of the halves that stand in a row. -/
def bytesFrom (position : Nat) : List Symbol → Except NameFault (List UInt8)
  | [] => .ok []
  | .char c :: rest =>
    (bytesFrom (position + 1) rest).map (Text.encodeUtf8 (String.singleton c) ++ ·)
  | .half n :: rest =>
    match byte? n with
    | some b => (bytesFrom (position + 1) rest).map (b :: ·)
    | none => .error ⟨position, 1 + (rest.takeWhile fun symbol => symbol.char?.isNone).length, n⟩

def bytes (row : List Symbol) : Except NameFault (List UInt8) := bytesFrom 0 row

/-- What bytes are read as. -/
def ofBytes : List UInt8 → List Symbol
  | [] => []
  | b :: rest =>
    match Text.leading b with
    | none => .half (0xDC00 + b.toNat) :: ofBytes rest
    | some (payload, shape) =>
      match h : Text.continuation payload 1 shape rest with
      | .error _ => .half (0xDC00 + b.toNat) :: ofBytes rest
      | .ok (code, after) => .char (Char.ofNat code) :: ofBytes after
  termination_by bytes => bytes.length
  decreasing_by
    · simp
    · simp
    · have := Text.continuation_length_le h
      simp only [List.length_cons] at *
      omega

/-- The name that the host keeps for a row of symbols. -/
def kept (row : List Symbol) : List Symbol :=
  match bytes row with
  | .ok bytes => ofBytes bytes
  | .error _ => row

/-- How many bytes a name takes. -/
def size (row : List Symbol) : Nat :=
  match bytes row with
  | .ok bytes => bytes.length
  | .error _ => 0

end Name

end SubgraphLauncher
