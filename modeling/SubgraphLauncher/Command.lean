import SubgraphLauncher.Text.Blank

/-!
# Commands

A command line is cut into words at its blanks: the first names what is run, the others are its
arguments. There is no quoting.
-/

namespace SubgraphLauncher

structure Command where
  executable : String
  arguments : List String
  deriving DecidableEq, Repr

namespace Command

/-- The whole argument vector, the executable first. -/
def argv (command : Command) : List String := command.executable :: command.arguments

/-- The command of a line; a line without a word has none. -/
def parse? (line : String) : Option Command :=
  match (Text.words line.toList).map String.ofList with
  | [] => none
  | executable :: arguments => some ⟨executable, arguments⟩

end Command

/-- A line without the blanks at its ends. -/
def trimmed (line : String) : String := String.ofList (Text.trim line.toList)

end SubgraphLauncher
