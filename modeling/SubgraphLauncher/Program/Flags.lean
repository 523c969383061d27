/-!
# Flags

Flags are read only ahead of the name of the subgraph, in any order and as often as they come. The
first argument that is none ends them, and all that follows belongs to the command.
-/

namespace SubgraphLauncher

inductive Flag
  | discover
  | verbose
  deriving DecidableEq, Repr

def Flag.text : Flag → String
  | discover => "--discover"
  | verbose => "--verbose"

def Flag.ofText? (text : String) : Option Flag :=
  if text = discover.text then some discover
  else if text = verbose.text then some verbose
  else none

/-- The flags at the front, and the arguments behind them. -/
def splitFlags : List String → List Flag × List String
  | [] => ([], [])
  | argument :: rest =>
    match Flag.ofText? argument with
    | some flag => (flag :: (splitFlags rest).1, (splitFlags rest).2)
    | none => ([], argument :: rest)

theorem Flag.ofText?_text (flag : Flag) : Flag.ofText? flag.text = some flag := by
  cases flag <;> rfl

theorem splitFlags_cons_of_flag (flag : Flag) (rest : List String) :
    splitFlags (flag.text :: rest) = (flag :: (splitFlags rest).1, (splitFlags rest).2) := by
  rw [splitFlags, Flag.ofText?_text]

theorem splitFlags_of_no_flag {argument : String} (h : Flag.ofText? argument = none)
    (rest : List String) : splitFlags (argument :: rest) = ([], argument :: rest) := by
  rw [splitFlags, h]

end SubgraphLauncher
