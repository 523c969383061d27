import Mathlib.Data.List.Basic
import SubgraphLauncher.Command

/-!
# From arguments to a command

The arguments behind the name are joined into one line, and a command is cut out of the line again.
Joining puts a blank between two arguments, so no word reaches from one into the next: the words of
the line are those of the arguments, one after another. The cut undoes the joining only where every
argument is a word by itself.
-/

namespace SubgraphLauncher

open SubgraphLauncher.Text

namespace Text

/-- No piece of a text holds a separator. -/
theorem separates_of_mem_cut {α : Type} {separates : α → Bool} {s piece : List α}
    (hpiece : piece ∈ cut separates s) {c : α} (hc : c ∈ piece) : separates c = false := by
  induction s generalizing piece with
  | nil =>
      rw [cut, List.mem_singleton] at hpiece
      rw [hpiece] at hc
      cases hc
  | cons d rest ih =>
      obtain ⟨front, more, hrest⟩ := List.exists_cons_of_ne_nil (cut_ne_nil separates rest)
      rw [hrest] at ih
      rw [cut, hrest] at hpiece
      cases hd : separates d with
      | true =>
          rw [if_pos hd, List.mem_cons] at hpiece
          rcases hpiece with rfl | hlater
          · cases hc
          · exact ih hlater hc
      | false =>
          rw [if_neg (Bool.eq_false_iff.mp hd)] at hpiece
          rcases List.mem_cons.mp hpiece with rfl | hlater
          · rcases List.mem_cons.mp hc with rfl | hbehind
            · exact hd
            · exact ih List.mem_cons_self hbehind
          · exact ih (List.mem_cons_of_mem front hlater) hc

theorem ne_nil_of_mem_words {s word : List Char} (hword : word ∈ words s) : word ≠ [] := by
  have hsome := (List.mem_filter.mp hword).2
  intro hnil
  rw [hnil] at hsome
  cases hsome

theorem isBlank_of_mem_words {s word : List Char} (hword : word ∈ words s) {c : Char}
    (hc : c ∈ word) : isBlank c = false :=
  separates_of_mem_cut (List.mem_of_mem_filter hword) hc

/-- Joined by blanks, texts have the words that they have alone. -/
theorem words_intercalate {c : Char} (hc : isBlank c = true) (texts : List (List Char)) :
    words ([c].intercalate texts) = texts.flatMap words := by
  induction texts with
  | nil => rfl
  | cons first rest ih =>
      cases rest with
      | nil =>
          rw [List.intercalate_singleton, List.flatMap_singleton]
      | cons second more =>
          rw [List.intercalate_cons_cons, List.append_assoc, List.singleton_append,
            words_append_cons hc, ih, ← List.flatMap_cons]

end Text

/-- The words of a text. -/
def wordsOf (text : String) : List String := (words text.toList).map String.ofList

/-- A text that is a word: it is not empty and holds no blank. -/
def IsWord (text : String) : Prop := text ≠ "" ∧ ∀ c ∈ text.toList, isBlank c = false

theorem isWord_ofList {piece : List Char} (hsome : piece ≠ [])
    (hkept : ∀ c ∈ piece, isBlank c = false) : IsWord (String.ofList piece) := by
  refine ⟨fun hempty => hsome ?_, fun c hc => ?_⟩
  · have hnil := congrArg String.toList hempty
    rwa [String.toList_ofList] at hnil
  · rw [String.toList_ofList] at hc
    exact hkept c hc

theorem isWord_of_mem_wordsOf {text word : String} (hword : word ∈ wordsOf text) : IsWord word := by
  obtain ⟨piece, hpiece, rfl⟩ := List.mem_map.mp hword
  exact isWord_ofList (ne_nil_of_mem_words hpiece) fun c hc => isBlank_of_mem_words hpiece hc

theorem IsWord.toList_ne_nil {text : String} (hword : IsWord text) : text.toList ≠ [] :=
  String.toList_eq_nil_iff.not.mpr hword.1

theorem IsWord.wordsOf_eq {text : String} (hword : IsWord text) : wordsOf text = [text] := by
  rw [wordsOf, words_eq_singleton hword.toList_ne_nil hword.2, List.map_singleton,
    String.ofList_toList]

theorem wordsOf_intercalate (texts : List String) :
    wordsOf (String.intercalate " " texts) = texts.flatMap wordsOf := by
  have hblank : isBlank ' ' = true := by decide
  have hseparator : " ".toList = [' '] := rfl
  rw [wordsOf, String.toList_intercalate, hseparator, words_intercalate hblank, List.flatMap_map,
    List.map_flatMap]
  rfl

/-- Arguments are their own words just where each of them is one. -/
theorem flatMap_wordsOf_eq_iff (texts : List String) :
    texts.flatMap wordsOf = texts ↔ ∀ text ∈ texts, IsWord text := by
  constructor
  · intro hsame text htext
    rw [← hsame, List.mem_flatMap] at htext
    obtain ⟨whole, -, hword⟩ := htext
    exact isWord_of_mem_wordsOf hword
  · intro hwords
    calc texts.flatMap wordsOf = texts.flatMap fun text => [text] :=
          List.flatMap_congr fun text htext => (hwords text htext).wordsOf_eq
      _ = texts := List.flatMap_singleton' texts

theorem Command.parse?_of_no_words {line : String} (hblank : wordsOf line = []) :
    Command.parse? line = none := by
  rw [wordsOf] at hblank
  rw [Command.parse?, hblank]

theorem Command.parse?_of_words {line executable : String} {arguments : List String}
    (hwords : wordsOf line = executable :: arguments) :
    Command.parse? line = some ⟨executable, arguments⟩ := by
  rw [wordsOf] at hwords
  rw [Command.parse?, hwords]

end SubgraphLauncher
