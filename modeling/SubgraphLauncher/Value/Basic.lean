import SubgraphLauncher.Text.Surrogate

/-!
# Values

A value is what a configuration file can hold: a document's data, and beside them the fixed sequence
that a setting may keep. The entries of an object stand in the order in which their keys first
occurred.
-/

namespace SubgraphLauncher

inductive Value where
  | null
  | bool (b : Bool)
  | int (n : Int)
  | float (x : Float)
  | text (s : String)
  /-- A text that holds half of a surrogate pair, and so is no string. -/
  | symbols (row : List Text.Symbol)
  | list (items : List Value)
  | tuple (items : List Value)
  | object (entries : List (Value × Value))
  deriving Inhabited

namespace Value

/-- The name of a value's type in messages. -/
def typeName : Value → String
  | null => "NoneType"
  | bool _ => "bool"
  | int _ => "int"
  | float _ => "float"
  | text _ => "str"
  | symbols _ => "str"
  | list _ => "list"
  | tuple _ => "tuple"
  | object _ => "dict"

/-- The symbols of a value that is a text. -/
def row? : Value → Option (List Text.Symbol)
  | text s => some (Text.rowOf s)
  | symbols row => some row
  | _ => none

/-- What shows a value that is a text. -/
def text? : Value → Option String
  | text s => some s
  | symbols row => some (Text.shownRow row)
  | _ => none

/-- The text that a row of symbols is. -/
def ofSymbols (row : List Text.Symbol) : Value :=
  match row.mapM Text.Symbol.char? with
  | some cs => text (String.ofList cs)
  | none => symbols row

/-- Whether a value counts as present: zero, the empty text and empty collections do not. -/
def isPresent : Value → Bool
  | null => false
  | bool b => b
  | int n => n != 0
  | float x => x != 0.0
  | text s => !s.isEmpty
  | symbols row => !row.isEmpty
  | list items => !items.isEmpty
  | tuple items => !items.isEmpty
  | object entries => !entries.isEmpty

def isText (s : String) : Value → Bool
  | text t => t == s
  | _ => false

theorem isText_iff {s : String} {value : Value} : value.isText s = true ↔ value = text s := by
  cases value <;> simp [isText]

/-- The value of the first entry whose key is a text. -/
def entryOf? (key : String) (entries : List (Value × Value)) : Option Value :=
  (entries.find? fun entry => entry.1.isText key).map (·.2)

/-- The value stored under a key that is a text. -/
def member? (key : String) : Value → Option Value
  | object entries => entryOf? key entries
  | _ => none

end Value

end SubgraphLauncher
