import SubgraphLauncher.Partner.Basic
import SubgraphLauncher.Decimal.Numeral
import SubgraphLauncher.Command

/-!
# Choosing on the console

The user sees the candidates with their numbers and answers with one of them; an empty answer takes
the first. Whatever is no number of the list is turned down and asked again. Where nobody can be
asked, or the input ends, the choice is given up.
-/

namespace SubgraphLauncher

variable {τ σ : Type}

/-- What stands behind the standard input. -/
inductive Terminal
  | interactive
  | pipe
  | absent
  | closed
  | broken
  deriving DecidableEq, Repr

/-- Whether a user sits at the input; one that cannot be asked about has none. -/
def Terminal.isInteractive : Terminal → Bool
  | interactive => true
  | _ => false

inductive Reading (τ : Type)
  | text (s : String)
  | failure (failure : Failure τ)

def choiceTitle : String :=
  "Multiple new GraphQL endpoints were found. Which one belongs to this subgraph?"

/-- What is shown of a candidate; numbers start at one. -/
def choiceText (number : Nat) (endpoint : Endpoint) : String :=
  "  " ++ toString number ++ ") " ++ endpoint.url

def choicePrompt (count : Nat) : String :=
  "Select an endpoint [1-" ++ toString count ++ "] (default 1): "

inductive Verdict
  | chosen (index : Nat)
  | rejected
  | failed (fault : Decimal.NumeralFault)
  deriving DecidableEq, Repr

/-- Judges an answer without the blanks at its ends. Digits that make up no numeral are a failure,
since only a row of digits is read as a number at all. -/
def judge (count : Nat) (answer : List Char) : Verdict :=
  if answer.isEmpty then .chosen 0
  else if answer.all Text.isDigit then
    match Decimal.readWhole answer with
    | .error fault => .failed fault
    | .ok n => if 1 ≤ n ∧ n ≤ count then .chosen (n.toNat - 1) else .rejected
  else .rejected

/-- The message for a text that is no whole numeral; a long text is cut. -/
def wholeMessage (s : List Char) : Decimal.NumeralFault → String
  | .malformed =>
    "invalid literal for int() with base 10: " ++ String.ofList ((Text.quote s).take 200)
  | .tooLong digits =>
    "Exceeds the limit (" ++ toString Decimal.digitLimit ++
      " digits) for integer string conversion: value has " ++ toString digits ++
      " digits; use sys.set_int_max_str_digits() to increase the limit"

def showText (text : String) : PartnerAction τ σ Unit :=
  showLines (Text.cut (· == '\n') text.toList)
where
  showLines : List (List Char) → PartnerAction τ σ Unit
    | [] => pure ()
    | line :: rest => do
      Action.emit (.line (String.ofList line))
      showLines rest

/-- The message for an input that cannot be read. -/
def giveUp (failure : Failure τ) [Moment τ] : Failure τ :=
  if failure.className = "EOFError" ∨ failure.className = "KeyboardInterrupt" then
    .aborted (some "endpoint selection was aborted")
  else if failure.isIn .system || failure.isIn .value then
    .aborted (some ("could not read endpoint selection: " ++ failure.message))
  else failure

/-- Asks until an answer decides. An input that has no more readings has ended. -/
def askChoice [Moment τ] (readings : Slot σ (List (Reading τ))) (count : Nat) :
    List (Reading τ) → PartnerAction τ σ Nat
  | [] => do
    Action.emit (.prompt (choicePrompt count))
    Action.raise (giveUp (.other .endOfInput none))
  | reading :: rest => do
    Action.emit (.prompt (choicePrompt count))
    PartnerAction.keep readings rest
    match reading with
    | .failure failure => Action.raise (giveUp failure)
    | .text line =>
      let answer := Text.trim line.toList
      match judge count answer with
      | .chosen index => return index
      | .failed fault => Action.raise (.valueError (wholeMessage answer fault))
      | .rejected =>
        showText ("'" ++ String.ofList answer ++ "' is not a valid choice.")
        PartnerAction.note .chooser
          ("Rejected endpoint choice: " ++ Text.quoted (String.ofList answer))
        askChoice readings count rest

def showChoices (number : Nat) : List Endpoint → PartnerAction τ σ Unit
  | [] => pure ()
  | endpoint :: rest => do
    showText (choiceText number endpoint)
    showChoices (number + 1) rest

def chooseOnConsole [Moment τ] (terminal : Terminal) (terminalRequired : Bool)
    (readings : Slot σ (List (Reading τ))) (candidates : List Endpoint) :
    PartnerAction τ σ Nat := do
  if candidates.isEmpty then
    Action.raise (.aborted (some "there are no endpoints to choose from"))
  if terminalRequired && !terminal.isInteractive then
    Action.raise (.aborted (some "cannot prompt for an endpoint: stdin is not a terminal"))
  showText choiceTitle
  showChoices 1 candidates
  askChoice readings candidates.length (← PartnerAction.fetch readings)

/-- The chooser on the console, with the readings of its input on the desk. -/
def Chooser.onConsole [Moment τ] (terminal : Terminal) (terminalRequired : Bool)
    (readings : Slot σ (List (Reading τ))) : Chooser τ σ where
  choose candidates := do
    return ((← chooseOnConsole terminal terminalRequired readings candidates) : Int)

end SubgraphLauncher
