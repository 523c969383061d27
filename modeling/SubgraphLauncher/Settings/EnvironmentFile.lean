import SubgraphLauncher.Settings.Coercion
import SubgraphLauncher.Settings.Environment
import SubgraphLauncher.Text.Blank

/-!
# Environment files

The usual reader of environment files. A file in the working directory may add variables. Each
binding is a key, which may follow the word `export`, and a value in single quotes, in double quotes
or bare. A value may refer to variables. What cannot be read is passed over to the end of its line,
and of several bindings of one key the last one counts. Variables of the environment are left out,
and a binding that no environment can hold makes the whole file a failure.
-/

namespace SubgraphLauncher.Environment

open SubgraphLauncher.Text (isBlank trim)

/-- A binding of a file; a key without an equals sign has no value. -/
structure Binding where
  key : String
  value : Option String
  deriving DecidableEq, Repr

def isNewline (c : Char) : Bool := c == '\n' || c == '\r'

/-- A blank that does not end a line. -/
def isInnerBlank (c : Char) : Bool := isBlank c && !isNewline c

def skipInner (s : List Char) : List Char := s.dropWhile isInnerBlank

/-- Passes over the word `export` where a blank follows it. -/
def skipExport (s : List Char) : List Char :=
  let word := "export".toList
  if word.isPrefixOf s then
    let rest := s.drop word.length
    if rest.head?.any isInnerBlank then skipInner rest else s
  else s

/-- Reads up to the closing quote. A backslash and the character behind it belong together, so a
quote behind a backslash does not close. The result is the text between the quotes and what follows
the closing one. -/
def readQuoted (quote : Char) : List Char → Option (List Char × List Char)
  | '\\' :: c :: rest => (readQuoted quote rest).map fun (cs, after) => ('\\' :: c :: cs, after)
  | c :: rest =>
    if c = quote then some ([], rest)
    else if c = '\\' then none
    else (readQuoted quote rest).map fun (cs, after) => (c :: cs, after)
  | [] => none

/-- The character that a backslash and a letter stand for in double quotes. -/
def controlEscape? : Char → Option Char
  | '\\' => some '\\'
  | '\x27' => some '\x27'
  | '"' => some '"'
  | 'a' => some '\x07'
  | 'b' => some '\x08'
  | 'f' => some '\x0c'
  | 'n' => some '\n'
  | 'r' => some '\r'
  | 't' => some '\t'
  | 'v' => some '\x0b'
  | _ => none

/-- The character that a backslash and a character stand for in single quotes. -/
def plainEscape? : Char → Option Char
  | '\\' => some '\\'
  | '\x27' => some '\x27'
  | _ => none

/-- Replaces escapes; a backslash before anything else stands for itself. -/
def unescape (escape? : Char → Option Char) : List Char → List Char
  | '\\' :: c :: rest =>
    match escape? c with
    | some d => d :: unescape escape? rest
    | none => '\\' :: unescape escape? (c :: rest)
  | c :: rest => c :: unescape escape? rest
  | [] => []
  termination_by s => s.length

/-- A bare value ends in front of a comment that follows a blank. `blanks` are those just passed, in
reverse. -/
def cutComment (blanks : List Char) : List Char → List Char
  | [] => blanks.reverse
  | c :: rest =>
    if isBlank c then cutComment (c :: blanks) rest
    else if c = '#' ∧ blanks ≠ [] then []
    else blanks.reverse ++ c :: cutComment [] rest

def splitLine (s : List Char) : List Char × List Char :=
  (s.takeWhile fun c => !isNewline c, s.dropWhile fun c => !isNewline c)

def readKey (s : List Char) : Except (List Char) (Option String × List Char) :=
  match s with
  | '#' :: _ => .ok (none, s)
  | '\x27' :: rest =>
    let key := rest.takeWhile (· != '\x27')
    match rest.drop key.length with
    | _ :: after => if key.isEmpty then .error s else .ok (some (String.ofList key), after)
    | [] => .error s
  | _ =>
    let key := s.takeWhile fun c => c != '=' && c != '#' && !isBlank c
    if key.isEmpty then .error s else .ok (some (String.ofList key), s.drop key.length)

/-- Reads a value behind its equals sign. A bare value is the rest of the line, where blanks before
the value also set off a comment. -/
def readValue (s : List Char) : Except (List Char) (String × List Char) :=
  match skipInner s with
  | '\x27' :: rest =>
    match readQuoted '\x27' rest with
    | some (value, after) => .ok (String.ofList (unescape plainEscape? value), after)
    | none => .error rest
  | '"' :: rest =>
    match readQuoted '"' rest with
    | some (value, after) => .ok (String.ofList (unescape controlEscape? value), after)
    | none => .error rest
  | _ =>
    let (line, rest) := splitLine s
    .ok (String.ofList (trim (cutComment [] line)), rest)

/-- Passes over a comment and the end of the line, which has to come next. -/
def readLineEnd (s : List Char) : Except (List Char) (List Char) :=
  let rest := skipInner s
  let rest := match rest with
    | '#' :: more => (splitLine more).2
    | _ => rest
  let rest := skipInner rest
  match rest with
  | [] => .ok []
  | '\r' :: '\n' :: more => .ok more
  | c :: more => if isNewline c then .ok more else .error rest

/-- Reads one binding behind the blanks in front of it. -/
def readBinding (s : List Char) : Except (List Char) (Option Binding × List Char) := do
  let (key, afterKey) ← readKey (skipExport s)
  let afterKey := skipInner afterKey
  match afterKey with
  | '=' :: rest =>
    let (value, afterValue) ← readValue rest
    return (key.map fun key => ⟨key, some value⟩, ← readLineEnd afterValue)
  | _ => return (key.map fun key => ⟨key, none⟩, ← readLineEnd afterKey)

/-- Passes over the rest of a line with its end. -/
def skipLine (s : List Char) : List Char :=
  match (splitLine s).2 with
  | '\r' :: '\n' :: rest => rest
  | _ :: rest => rest
  | [] => []

/-- The bindings of a file. Each turn of reading takes at least one character, so the length of the
text bounds the number of turns. -/
def readBindings : Nat → List Char → List Binding
  | 0, _ => []
  | turns + 1, s =>
    match s.dropWhile isBlank with
    | [] => []
    | start =>
      match readBinding start with
      | .ok (some binding, rest) => binding :: readBindings turns rest
      | .ok (none, rest) => readBindings turns rest
      | .error place => readBindings turns (skipLine place)

/-- The bindings of a text, which may start with a byte order mark. -/
def parse (s : List Char) : List Binding :=
  let body := match s with
    | '\uFEFF' :: rest => rest
    | _ => s
  readBindings (body.length + 1) body

/-- Splits off a reference `$` with a name, or a name and a default, in braces. -/
def readReference (s : List Char) : Option ((String × String) × List Char) :=
  match s with
  | '$' :: '\x7b' :: rest =>
    let name := rest.takeWhile fun c => c != '\x7d' && c != ':'
    match rest.drop name.length with
    | '\x7d' :: after => some ((String.ofList name, ""), after)
    | ':' :: '-' :: more =>
      let fallback := more.takeWhile (· != '\x7d')
      match more.drop fallback.length with
      | _ :: after => some ((String.ofList name, String.ofList fallback), after)
      | [] => none
    | _ => none
  | _ => none

/-- Replaces the references of a value. The first argument bounds the number of steps. -/
def expandFrom (look : String → Option String) : Nat → List Char → List Char
  | 0, s => s
  | _ + 1, [] => []
  | turns + 1, c :: rest =>
    match readReference (c :: rest) with
    | some ((name, fallback), after) =>
      ((look name).getD fallback).toList ++ expandFrom look turns after
    | none => c :: expandFrom look turns rest

def expand (look : String → Option String) (value : String) : String :=
  String.ofList (expandFrom look value.length value.toList)

/-- Keeps a binding: a key that is there keeps its place and takes the new value. -/
def putBinding (binding : Binding) : List Binding → List Binding
  | [] => [binding]
  | old :: rest =>
    if old.key = binding.key then binding :: rest else old :: putBinding binding rest

/-- What a reference stands for: a variable of the environment, or else an earlier key. A key
without a value stands for nothing, as does an unknown name that has no default. -/
def lookIn (environment : Variables) (earlier : List Binding) (name : String) : Option String :=
  match get? environment name with
  | some value => some value
  | none => (earlier.find? fun binding => binding.key == name).map fun binding =>
      binding.value.getD ""

/-- Expands the values of bindings in order, each with those before it. -/
def resolve (environment : Variables) (earlier : List Binding) : List Binding → List Binding
  | [] => earlier
  | binding :: rest =>
    let value := binding.value.map (expand (lookIn environment earlier))
    resolve environment (putBinding ⟨binding.key, value⟩ earlier) rest

inductive Fault
  | nul
  | badName
  deriving DecidableEq, Repr

def Fault.message : Fault → String
  | nul => "embedded null byte"
  | badName => "illegal environment variable name"

def hasNul (s : String) : Bool := s.toList.contains '\x00'

/-- Adds a binding to those that were added before, as long as it holds no null character and its
name no equals sign. A variable that is there stays, and a key without a value changes nothing. -/
def addBinding (environment added : Variables) (binding : Binding) : Except Fault Variables :=
  match binding.value with
  | none => .ok added
  | some value =>
    if (get? (environment ++ added) binding.key).isSome then .ok added
    else if hasNul binding.key || hasNul value then .error .nul
    else if binding.key.toList.contains '=' then .error .badName
    else .ok (added ++ [(binding.key, value)])

/-- The variables that a text adds to an environment. -/
def added (environment : Variables) (text : List Char) : Except Fault Variables :=
  (resolve environment [] (parse text)).foldlM (addBinding environment) []

/-- The variable with which the user switches environment files off. -/
def switchName : String := "PYTHON_DOTENV_DISABLED"

/-- A character without regard to case. Of the characters beyond ASCII, the long `s` alone counts as
an ASCII letter that occurs in a word for a yes. -/
def foldCase (c : Char) : Char := if c = '\u017F' then 's' else c.toLower

def skipsFile (environment : Variables) : Bool :=
  (get? environment switchName).any fun value =>
    Value.yesWords.contains (String.ofList (value.toList.map foldCase))

def fileName : List Text.Symbol := Text.rowOf ".env"

/-- Reads the environment file of the working directory, if there is one. -/
def fileReader : Reader := fun environment tree =>
  match tree.held? (tree.workingDirectory ++ [fileName]), skipsFile environment with
  | some (.file content), false => do
    let chars ← decodeFile content
    (added environment chars).mapError fun fault => .valueError fault.message
  | _, _ => .ok []

end SubgraphLauncher.Environment
