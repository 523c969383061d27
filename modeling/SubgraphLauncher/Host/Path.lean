import SubgraphLauncher.Host.Name
import SubgraphLauncher.Text.Cut

/-!
# Paths

A path is a list of names, from the working directory or from the root. Two paths with the same
names may be written with other slashes and single dots; a `..` stays where it is, since it leads
back from wherever the name in front of it leads.
-/

namespace SubgraphLauncher

open SubgraphLauncher.Text (Symbol cut)

/-- A path: slashes at the front, and names without empty ones and single dots. -/
structure Path where
  root : String
  parts : List (List Symbol)
  deriving DecidableEq, Repr

namespace Path

def slash : Symbol := .char '/'

def above : List Symbol := [.char '.', .char '.']

/-- The path that a row of symbols names. Two slashes at the front differ from one, and more do
not. -/
def ofRow (row : List Symbol) : Path :=
  let slashes := (row.takeWhile (· == slash)).length
  let root := if slashes = 0 then "" else if slashes = 2 then "//" else "/"
  ⟨root, (cut (· == slash) row).filter fun name => !name.isEmpty && name != [.char '.']⟩

def ofText (text : String) : Path := ofRow (Text.rowOf text)

def row (path : Path) : List Symbol :=
  if path.root = "" ∧ path.parts = [] then [.char '.']
  else Text.rowOf path.root ++ [slash].intercalate path.parts

def text (path : Path) : String := Text.shownRow path.row

/-- The names that the host keeps for the parts of a path. -/
def names (path : Path) : List (List Symbol) := path.parts.map Name.kept

def child (path : Path) (name : String) : Path :=
  { path with parts := path.parts ++ [Text.rowOf name] }

/-- Names with each `..` taken out as text, together with the name in front of it. A `..` that leads
above the start stays. `done` are the names so far, in reverse. -/
def plainParts (done : List (List Symbol)) : List (List Symbol) → List (List Symbol)
  | [] => done.reverse
  | name :: rest =>
    if name = above ∧ done.head?.any (· != above) then plainParts done.tail rest
    else plainParts (name :: done) rest

/-- The path with each `..` taken out as text. Nothing lies above the root. -/
def plain (path : Path) : Path :=
  let parts := plainParts [] path.parts
  { path with parts := if path.root = "" then parts else parts.dropWhile (· == above) }

/-- The plain path from the root on, given the names that lead to the working directory. -/
def full (path : Path) (directory : List (List Symbol)) : Path :=
  if path.root = "" then plain ⟨"/", directory ++ path.parts⟩ else plain path

end Path

end SubgraphLauncher
