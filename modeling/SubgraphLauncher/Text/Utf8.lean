import SubgraphLauncher.Text.Surrogate

/-!
# UTF-8

A file of text is read whole. The first byte sequence that is not well formed stops the reading, and
the fault names the longest stretch that could have begun a character. Every text has its bytes, but
a row of symbols has none if half of a surrogate pair is among them.
-/

namespace SubgraphLauncher.Text

inductive Utf8Cause
  | badStart
  | badContinuation
  | truncated
  deriving DecidableEq, Repr

/-- The bytes from `first` on, `count` of them, begin no character. -/
structure Utf8Fault where
  first : Nat
  count : Nat
  byte : UInt8
  cause : Utf8Cause
  deriving DecidableEq, Repr

/-- The bytes that may follow a leading byte, as ranges, and the payload of the leading byte. -/
def leading (b : UInt8) : Option (Nat × List (Nat × Nat)) :=
  let n := b.toNat
  let tail := (0x80, 0xBF)
  if n < 0x80 then some (n, [])
  else if n < 0xC2 then none
  else if n < 0xE0 then some (n - 0xC0, [tail])
  else if n = 0xE0 then some (0, [(0xA0, 0xBF), tail])
  else if n = 0xED then some (0xD, [(0x80, 0x9F), tail])
  else if n < 0xF0 then some (n - 0xE0, [tail, tail])
  else if n = 0xF0 then some (0, [(0x90, 0xBF), tail, tail])
  else if n < 0xF4 then some (n - 0xF0, [tail, tail, tail])
  else if n = 0xF4 then some (4, [(0x80, 0x8F), tail, tail])
  else none

/-- Takes the continuation bytes of one character: its code point and what follows it, or the number
of bytes that fitted and why the next one did not. -/
def continuation (code taken : Nat) :
    List (Nat × Nat) → List UInt8 → Except (Nat × Utf8Cause) (Nat × List UInt8)
  | [], rest => .ok (code, rest)
  | _ :: _, [] => .error (taken, .truncated)
  | (low, high) :: more, b :: rest =>
    if low ≤ b.toNat ∧ b.toNat ≤ high then
      continuation (code * 64 + (b.toNat - 0x80)) (taken + 1) more rest
    else .error (taken, .badContinuation)

theorem continuation_length_le {code taken : Nat} {shape : List (Nat × Nat)} {bytes : List UInt8}
    {found : Nat × List UInt8} (h : continuation code taken shape bytes = .ok found) :
    found.2.length ≤ bytes.length := by
  induction shape generalizing code taken bytes with
  | nil => cases h; exact Nat.le_refl _
  | cons range more ih =>
      cases bytes with
      | nil => simp [continuation] at h
      | cons b rest =>
          simp only [continuation] at h
          split at h
          · have := ih h
            simp only [List.length_cons]
            omega
          · simp at h

/-- The characters of a byte sequence whose first byte stands at `position`. -/
def decodeFrom (position : Nat) : List UInt8 → Except Utf8Fault (List Char)
  | [] => .ok []
  | b :: rest =>
    match leading b with
    | none => .error ⟨position, 1, b, .badStart⟩
    | some (payload, shape) =>
      match h : continuation payload 1 shape rest with
      | .error (taken, cause) => .error ⟨position, taken, b, cause⟩
      | .ok (code, rest') =>
        (decodeFrom (position + 1 + shape.length) rest').map (Char.ofNat code :: ·)
  termination_by bytes => bytes.length
  decreasing_by
    have := continuation_length_le h
    simp only [List.length_cons] at *
    omega

def decodeUtf8 (bytes : List UInt8) : Except Utf8Fault (List Char) := decodeFrom 0 bytes

/-- The bytes of a text. -/
def encodeUtf8 (s : String) : List UInt8 := s.toUTF8.toList

def encodeRow? (row : List Symbol) : Option (List UInt8) :=
  (row.mapM Symbol.char?).map fun chars => encodeUtf8 (String.ofList chars)

/-- A line that ends with a carriage return, or with one and a line feed, ends with a line feed
alone once it is read. -/
def plainNewlines : List Char → List Char
  | [] => []
  | '\r' :: '\n' :: rest => '\n' :: plainNewlines rest
  | '\r' :: rest => '\n' :: plainNewlines rest
  | c :: rest => c :: plainNewlines rest

end SubgraphLauncher.Text
