import SubgraphLauncher.Failure
import SubgraphLauncher.Host.Path

/-!
# Files

The files of the host form one tree, with a root and without links, and one of its directories is
the working directory. A path can only be followed where it can be written in bytes and holds no
null character, and names and paths have a greatest length.

A place may be closed to changes, for whatever reason the host has: in such a directory nothing can
be made, and such a file cannot be opened for appending. A file that was opened takes what is
appended to it.
-/

namespace SubgraphLauncher

open SubgraphLauncher.Text (Symbol)

inductive Entry
  | file (content : List UInt8)
  | directory
  deriving DecidableEq, Repr

/-- A place in the tree: the names that lead to it from the root, as the host keeps them. -/
abbrev Place : Type := List (List Symbol)

/-- A numbered error with which the host refuses a change. -/
structure Refusal where
  number : Int
  reason : String
  deriving DecidableEq, Repr

/-- What the host has at its places. A directory that holds something, or leads to the working
directory, need not be listed itself. -/
structure FileTree where
  entries : List (Place × Entry)
  workingDirectory : Place
  /-- The places that are closed to changes. -/
  refusals : List (Place × Refusal)

inductive PathFault
  | missing
  | notDirectory
  | isDirectory
  | occupied
  | tooLong
  | nul
  | unwritable (fault : NameFault)
  | tooDeep
  | refused (refusal : Refusal)
  deriving DecidableEq, Repr

/-- Whether the host answers that there is no such place. -/
def PathFault.isMissing : PathFault → Bool
  | missing => true
  | refused refusal => refusal.number == 2
  | _ => false

/-- The message for symbols that have no bytes. -/
def NameFault.message (fault : NameFault) : String :=
  "'utf-8' codec can't encode " ++
    (if fault.count = 1 then
      "character '\\u" ++ String.ofList (Text.hex 4 fault.number) ++ "' in position " ++
        toString fault.first
    else
      "characters in position " ++ toString fault.first ++ "-" ++
        toString (fault.first + fault.count - 1)) ++
    ": surrogates not allowed"

/-- The failure that the host answers with. What cannot be written and null characters do not even
reach the host. -/
def PathFault.failure {τ : Type} (file : String) : PathFault → Failure τ
  | missing => .system 2 "No such file or directory" (some file)
  | notDirectory => .system 20 "Not a directory" (some file)
  | isDirectory => .system 21 "Is a directory" (some file)
  | occupied => .system 17 "File exists" (some file)
  | tooLong => .system 36 "File name too long" (some file)
  | nul => .valueError "embedded null byte"
  | unwritable fault => .other .encodeError (some fault.message)
  | tooDeep => .other .recursionError
      (some "maximum recursion depth exceeded while calling a Python object")
  | refused refusal => .system refusal.number refusal.reason (some file)

/-- The greatest number of bytes in a name. -/
def nameLimit : Nat := 255

/-- The greatest number of bytes in a path. -/
def pathLimit : Nat := 4095

/-- The greatest number of directories that are looked for one above the other. -/
def climbLimit : Nat := 988

/-- What is wrong with a path as it is written, wherever it leads. -/
def writtenFault? (row : List Symbol) : Option PathFault :=
  match Name.bytes row with
  | .error fault => some (.unwritable fault)
  | .ok bytes =>
    if bytes.contains 0 then some .nul else if pathLimit < bytes.length then some .tooLong else none

/-- The text of a file. -/
def decodeFile (content : List UInt8) : Except (Failure Float) (List Char) :=
  match Text.decodeUtf8 content with
  | .ok chars => .ok (Text.plainNewlines chars)
  | .error fault => .error (.other .decodeError (some (utf8Message fault)))

namespace FileTree

/-- A tree that holds nothing but its working directory. -/
def bare (workingDirectory : Place) : FileTree := ⟨[], workingDirectory, []⟩

/-- What is found at a place. -/
def held? (tree : FileTree) (place : Place) : Option Entry :=
  match tree.entries.find? fun entry => entry.1 == place with
  | some (_, entry) => some entry
  | none =>
    if place.isPrefixOf tree.workingDirectory ||
        tree.entries.any fun entry => place.isPrefixOf entry.1 then
      some .directory
    else none

def refusal? (tree : FileTree) (place : Place) : Option Refusal :=
  (tree.refusals.find? fun entry => entry.1 == place).map (·.2)

/-- The place that a name leads to. Nothing lies above the root. -/
def enter (place : Place) (name : List Symbol) : Place :=
  if name = Path.above then place.dropLast else place ++ [name]

/-- Follows names from a place; every place on the way has to be a directory. -/
def follow (tree : FileTree) (place : Place) : List (List Symbol) → Except PathFault Place
  | [] => .ok place
  | name :: rest =>
    match tree.held? place with
    | some .directory =>
      if nameLimit < Name.size name then .error .tooLong else follow tree (enter place name) rest
    | some (.file _) => .error .notDirectory
    | none => .error .missing

/-- Where paths with the given slashes at the front begin. -/
def startOf (tree : FileTree) (root : String) : Place :=
  if root = "" then tree.workingDirectory else []

def reach (tree : FileTree) (path : Path) : Except PathFault Place :=
  match writtenFault? path.row with
  | some fault => .error fault
  | none => tree.follow (tree.startOf path.root) path.names

def find (tree : FileTree) (path : Path) : Except PathFault Entry :=
  match tree.reach path with
  | .error fault => .error fault
  | .ok place =>
    match tree.held? place with
    | some entry => .ok entry
    | none => .error .missing

def put (tree : FileTree) (place : Place) (entry : Entry) : FileTree :=
  { tree with entries := tree.entries.filter (fun old => old.1 != place) ++ [(place, entry)] }

/-- Makes something at a place where nothing is, unless the directory above is closed. -/
def make (tree : FileTree) (place : Place) (entry : Entry) : Except PathFault FileTree :=
  match tree.refusal? place.dropLast with
  | some refusal => .error (.refused refusal)
  | none => .ok (tree.put place entry)

/-- Makes a directory in the one at a place, and answers with where it is. A directory that is there
already is left as it is. -/
def ensureIn (tree : FileTree) (place : Place) (name : List Symbol) :
    Except PathFault (Place × FileTree) := do
  let next ← tree.follow place [name]
  match tree.held? next with
  | some .directory => .ok (next, tree)
  | some (.file _) => .error .occupied
  | none => (tree.make next .directory).map fun made => (next, made)

/-- Makes a directory with those above it, and answers with where it is. The names are those of its
path from the last to the first, and `climbed` directories below it have been found missing. A fault
comes with the path it was found at, and what was made before it stays. -/
def ensureDirectory (tree : FileTree) (root : String) (climbed : Nat) :
    List (List Symbol) → Except (PathFault × Path) Place × FileTree
  | [] => (.ok (tree.startOf root), tree)
  | name :: before =>
    let path : Path := ⟨root, (name :: before).reverse⟩
    let attempt : Except PathFault (Place × FileTree) :=
      match writtenFault? path.row with
      | some fault => .error fault
      | none => do
        let place ← tree.follow (tree.startOf root) (before.reverse.map Name.kept)
        tree.ensureIn place (Name.kept name)
    if climbed = climbLimit then (.error (.tooDeep, path), tree)
    else match attempt with
    | .ok (place, made) => (.ok place, made)
    | .error fault =>
      if fault.isMissing then
        match tree.ensureDirectory root (climbed + 1) before with
        | (.error found, made) => (.error found, made)
        | (.ok place, made) =>
          match made.ensureIn place (Name.kept name) with
          | .ok (next, complete) => (.ok next, complete)
          | .error fault => (.error (fault, path), made)
      else (.error (fault, path), tree)

/-- Opens a file for appending, makes it where it is missing, and answers with where it is. -/
def openForAppend (tree : FileTree) (path : Path) : Except PathFault (Place × FileTree) := do
  let place ← tree.reach path
  match tree.held? place with
  | some .directory => .error .isDirectory
  | some (.file _) =>
    match tree.refusal? place with
    | some refusal => .error (.refused refusal)
    | none => .ok (place, tree)
  | none => (tree.make place (.file [])).map fun made => (place, made)

/-- Appends to a file that is there. -/
def append (tree : FileTree) (place : Place) (content : List UInt8) : FileTree :=
  { tree with
    entries := tree.entries.map fun entry =>
      match entry with
      | (other, .file old) => (other, .file (if other = place then old ++ content else old))
      | directory => directory }

end FileTree

end SubgraphLauncher
