import SubgraphLauncher.Event
import SubgraphLauncher.Host.Files
import SubgraphLauncher.Journal.Level

/-!
# The journal

Records go to the console and, where a file is set, to a file; each of the two has a lowest level.
Setting up the journal replaces whatever handled records before, so no record is ever written twice.
A file that cannot be opened is reported on the console and does without.

Records are rows of symbols. The console shows every row, but a file is written in UTF-8 and cannot
take a row that names half of a surrogate pair: the host then complains on the console instead. What
a complaint says depends on more than the program and is left open.
-/

namespace SubgraphLauncher

open SubgraphLauncher.Text (Symbol rowOf)

/-- What handles a record: the console, or the file at a place. -/
inductive Handler
  | console (level : Int)
  | file (level : Int) (place : Place)
  deriving DecidableEq, Repr

structure Journal where
  /-- Records below this level are dropped before any handler sees them. -/
  rootLevel : Int
  handlers : List Handler
  console : List (List Symbol)
  tree : FileTree
  stamp : String
  /-- What the host prints about a line that a file cannot take. -/
  complaint : List Symbol → List (List Symbol)

namespace Journal

def start (tree : FileTree) (stamp : String) (complaint : List Symbol → List (List Symbol)) :
    Journal :=
  ⟨30, [], [], tree, stamp, complaint⟩

/-- The line of a record; names of levels are filled up to eight characters. -/
def lineOf (stamp : String) (level : Int) (source message : List Symbol) : List Symbol :=
  let name := levelName level
  let gap := String.ofList (List.replicate (8 - name.length) ' ')
  rowOf (stamp ++ " - " ++ name ++ gap ++ " - [") ++ source ++ rowOf "] - " ++ message

def print (journal : Journal) (lines : List (List Symbol)) : Journal :=
  { journal with console := journal.console ++ lines }

/-- Appends a line to a file, or complains about it. -/
def append (journal : Journal) (place : Place) (line : List Symbol) : Journal :=
  match Text.encodeRow? (line ++ rowOf "\n") with
  | some bytes => { journal with tree := journal.tree.append place bytes }
  | none => journal.print (journal.complaint line)

def handle (level : Int) (line : List Symbol) (journal : Journal) : Handler → Journal
  | .console least => if least ≤ level then journal.print [line] else journal
  | .file least place => if least ≤ level then journal.append place line else journal

/-- Writes a record. Without any handler, warnings and worse go to the console as bare messages. -/
def write (journal : Journal) (level : Int) (source message : List Symbol) : Journal :=
  if level < journal.rootLevel ∨ level ≤ 0 then journal
  else if journal.handlers.isEmpty then
    if 30 ≤ level then journal.print [message] else journal
  else journal.handlers.foldl (handle level (lineOf journal.stamp level source message)) journal

def rootSource : List Symbol := rowOf "root"

/-- Opens a journal file with the directories above it, and answers with where it is. The
directories are made along the path as it is given, and the file is opened by its plain path. -/
def openFile (tree : FileTree) (path : Path) : Except (Failure Float) Place × FileTree :=
  match tree.ensureDirectory path.root 0 path.parts.dropLast.reverse with
  | (.error (fault, above), made) => (.error (fault.failure above.text), made)
  | (.ok _, made) =>
    let full := path.full tree.workingDirectory
    match made.openForAppend full with
    | .ok (place, opened) => (.ok place, opened)
    | .error fault => (.error (fault.failure full.text), made)

/-- What is reported about a file that cannot be opened. -/
def refusalMessage (path : Path) (failure : Failure Float) : List Symbol :=
  rowOf "Failed to initialize file logging handler at '" ++ path.row ++
    rowOf ("': " ++ failure.message)

/-- Adds the file to a journal that has its console. What the host objects to is reported instead;
any other failure ends the setting up. -/
def addFile (journal : Journal) (path : Path) : Except (Failure Float) Unit × Journal :=
  let (opened, tree) := openFile journal.tree path
  let journal := { journal with tree }
  match opened with
  | .ok place => (.ok (), { journal with handlers := journal.handlers ++ [.file 10 place] })
  | .error failure =>
    if failure.isIn .system then
      (.ok (), journal.write 40 rootSource (refusalMessage path failure))
    else (.error failure, journal)

/-- The path of the journal file that a setting holds. Whatever counts as absent sets none. -/
def fileSetting (value : Value) : Except (Failure Float) (Option Path) :=
  if value.isPresent then
    match value.row? with
    | some row => .ok (some (Path.ofRow row))
    | none => .error
        (.typeError ("expected str, bytes or os.PathLike object, not " ++ value.typeName))
  else .ok none

/-- Sets the journal up: the console from a level on, and the file at the given path, or else at the
path of the setting. -/
def setUp (journal : Journal) (level : Int) (given : Option Path) (setting : Value) :
    Except (Failure Float) Unit × Journal :=
  let fresh := { journal with rootLevel := 10, handlers := [.console level] }
  let path : Except (Failure Float) (Option Path) := match given with
    | some path => .ok (some path)
    | none => fileSetting setting
  match path with
  | .error failure => (.error failure, fresh)
  | .ok none => (.ok (), fresh)
  | .ok (some path) => fresh.addFile path

/-- Writes what an event shows on the console and in the file. -/
def observe {τ : Type} (journal : Journal) (event : Event τ) : Journal :=
  match event with
  | .partner (.line text) => journal.print [rowOf text]
  | event =>
    match event.record? with
    | some record =>
      journal.write record.level.number (rowOf record.source.name) (rowOf record.message)
    | none => journal

end Journal

end SubgraphLauncher
