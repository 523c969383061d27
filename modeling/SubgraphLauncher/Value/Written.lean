import SubgraphLauncher.Value.Basic
import SubgraphLauncher.Decimal.Binary
import SubgraphLauncher.Text.Quoted

/-!
# Values as text

The written form of a value shows its structure, with texts in quotes. The display form differs for
a text alone, which it leaves as it is.
-/

namespace SubgraphLauncher.Value

open SubgraphLauncher.Decimal (shortestText)
open SubgraphLauncher.Text (quoted quotedSymbols)

/-- A sequence of one item keeps a comma, which tells it from a value in brackets. -/
def inParentheses : List String → String
  | [item] => "(" ++ item ++ ",)"
  | items => "(" ++ String.intercalate ", " items ++ ")"

mutual

def written : Value → String
  | null => "None"
  | bool true => "True"
  | bool false => "False"
  | int n => toString n
  | float x => shortestText x
  | text s => quoted s
  | symbols row => quotedSymbols row
  | list items => "[" ++ String.intercalate ", " (writtenItems items) ++ "]"
  | tuple items => inParentheses (writtenItems items)
  | object entries => "\x7b" ++ String.intercalate ", " (writtenEntries entries) ++ "\x7d"

def writtenItems : List Value → List String
  | [] => []
  | item :: rest => item.written :: writtenItems rest

def writtenEntries : List (Value × Value) → List String
  | [] => []
  | (key, value) :: rest => (key.written ++ ": " ++ value.written) :: writtenEntries rest

end

/-- The display form. -/
def shown : Value → String
  | text s => s
  | symbols row => Text.shownRow row
  | value => value.written

end SubgraphLauncher.Value
