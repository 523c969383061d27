import SubgraphLauncher.Text.Cut
import SubgraphLauncher.Text.Range

/-!
# Blanks, trimming and words

A blank is any character that Unicode gives the property of white space, with the four separators
`U+001C` to `U+001F` beside it. Trimming removes blanks at the ends of a text, and the words of a
text are its longest stretches without a blank.
-/

namespace SubgraphLauncher.Text

def blankRanges : List (Nat × Nat) :=
  [(0x9, 0xD), (0x1C, 0x20), (0x85, 0x85), (0xA0, 0xA0), (0x1680, 0x1680), (0x2000, 0x200A),
   (0x2028, 0x2029), (0x202F, 0x202F), (0x205F, 0x205F), (0x3000, 0x3000)]

def isBlank (c : Char) : Bool := inRanges blankRanges c

def trimLeft (s : List Char) : List Char := s.dropWhile isBlank

def trimRight (s : List Char) : List Char := (s.reverse.dropWhile isBlank).reverse

/-- The text without the blanks at its two ends. -/
def trim (s : List Char) : List Char := trimRight (trimLeft s)

/-- The longest stretches of a text without a blank, from left to right. -/
def words (s : List Char) : List (List Char) := (cut isBlank s).filter fun piece => !piece.isEmpty

/-- No word reaches across a blank. -/
theorem words_append_cons {c : Char} (hc : isBlank c = true) (x y : List Char) :
    words (x ++ c :: y) = words x ++ words y := by
  rw [words, cut_append_cons hc, List.filter_append]
  rfl

/-- Blanks at the front belong to no word. -/
theorem words_cons_of_isBlank {c : Char} (hc : isBlank c = true) (s : List Char) :
    words (c :: s) = words s := words_append_cons hc [] s

/-- A text without a blank is its only word. -/
theorem words_eq_singleton {s : List Char} (hs : s ≠ []) (h : ∀ c ∈ s, isBlank c = false) :
    words s = [s] := by
  rw [words, cut_eq_singleton h]
  simpa using hs

end SubgraphLauncher.Text
