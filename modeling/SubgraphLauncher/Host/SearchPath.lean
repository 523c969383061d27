import SubgraphLauncher.Text.Cut

/-!
# The search path

A command is installed when it is found as an executable file: at the place it names, where it holds
a slash, and otherwise in a directory of the search path. Places are compared after dots and double
slashes have been removed from them.
-/

namespace SubgraphLauncher

open SubgraphLauncher.Text (cut)

inductive FileKind
  | plain
  | executable
  | directory
  deriving DecidableEq, Repr

/-- The search path, with `:` between its entries, the directory that relative places start from,
and the files of the host. -/
structure SearchPath where
  entries : String
  directory : String
  files : List (String × FileKind)

namespace SearchPath

/-- A place below a directory, unless it starts from the root. -/
def joinPlace (directory place : List Char) : List Char :=
  if place.head? = some '/' then place
  else if directory.isEmpty || directory.getLast? == some '/' then directory ++ place
  else directory ++ '/' :: place

/-- Walks through the parts of a rooted place; the result holds them from the last to the first. -/
def walk (done : List (List Char)) : List (List Char) → List (List Char)
  | [] => done
  | part :: rest =>
    if part.isEmpty || part == ['.'] then walk done rest
    else if part == ['.', '.'] then walk done.tail rest
    else walk (part :: done) rest

/-- A rooted place without empty parts and dots. Exactly two slashes at the front are kept. -/
def normalize (place : List Char) : List Char :=
  let slashes := place.takeWhile (· == '/')
  let root := if slashes.length = 2 then ['/', '/'] else ['/']
  root ++ ['/'].intercalate (walk [] (cut (· == '/') place)).reverse

def isExecutable (path : SearchPath) (place : List Char) : Bool :=
  let full := String.ofList (normalize (joinPlace path.directory.toList place))
  (path.files.find? fun file => file.1 == full).any fun file => file.2 == .executable

def finds (path : SearchPath) (command : String) : Bool :=
  let name := command.toList
  if name.contains '/' then path.isExecutable name
  else if path.entries.isEmpty then false
  else (cut (· == ':') path.entries.toList).any fun entry =>
    path.isExecutable (joinPlace entry name)

end SearchPath

end SubgraphLauncher
