import Mathlib.Data.List.TakeWhile
import SubgraphLauncher.Proofs.Session.Attempt

/-!
# Lines and their words

A line is laid out from words with gaps of blanks: one between any two words, and perhaps more at
the ends. Reading a command undoes the layout, whatever the gaps are made of. Every line that is not
blank has a layout, so what is read from a line are the words that stand there, no more and no less;
and a command is read again from its own words, joined by spaces.
-/

namespace SubgraphLauncher

open SubgraphLauncher.Text (isBlank words words_append_cons words_cons_of_isBlank
  words_eq_singleton)

namespace Text

theorem words_append_of_blank {gap : List Char} (hgap : ∀ c ∈ gap, isBlank c = true)
    (s : List Char) : words (gap ++ s) = words s := by
  induction gap with
  | nil => rfl
  | cons c rest ih =>
      obtain ⟨hc, hrest⟩ := List.forall_mem_cons.mp hgap
      rw [List.cons_append, words_cons_of_isBlank hc, ih hrest]

/-- A gap keeps the words on its two sides apart. -/
theorem words_append_gap {gap : List Char} (hsome : gap ≠ []) (hgap : ∀ c ∈ gap, isBlank c = true)
    (x y : List Char) : words (x ++ (gap ++ y)) = words x ++ words y := by
  obtain ⟨c, rest, rfl⟩ := List.exists_cons_of_ne_nil hsome
  obtain ⟨hc, hrest⟩ := List.forall_mem_cons.mp hgap
  rw [List.cons_append, words_append_cons hc, words_append_of_blank hrest]

/-- Only a text of blanks has no word. -/
theorem words_eq_nil_iff {s : List Char} : words s = [] ↔ ∀ c ∈ s, isBlank c = true := by
  constructor
  · intro hnone c hc
    by_contra hword
    induction s with
    | nil => cases hc
    | cons d rest ih =>
        cases hd : isBlank d with
        | true =>
            rw [words_cons_of_isBlank hd] at hnone
            refine ih hnone ((List.mem_cons.mp hc).resolve_left ?_)
            rintro rfl
            exact hword hd
        | false =>
            obtain ⟨piece, more, hrest⟩ := List.exists_cons_of_ne_nil (cut_ne_nil isBlank rest)
            simp [words, cut, hd, hrest] at hnone
  · intro hblank
    have hwhole := words_append_of_blank hblank []
    rwa [List.append_nil] at hwhole

end Text

/-! ### Gaps -/

/-- A text of blanks, which may be empty. -/
def IsGap (text : String) : Prop := ∀ c ∈ text.toList, isBlank c = true

instance (text : String) : Decidable (IsGap text) :=
  List.decidableBAll (fun c => isBlank c = true) text.toList

instance (text : String) : Decidable (IsWord text) :=
  have : Decidable (∀ c ∈ text.toList, isBlank c = false) := List.decidableBAll _ _
  inferInstanceAs (Decidable (text ≠ "" ∧ ∀ c ∈ text.toList, isBlank c = false))

theorem wordsOf_gap_append {gap : String} (hgap : IsGap gap) (text : String) :
    wordsOf (gap ++ text) = wordsOf text := by
  rw [wordsOf, String.toList_append, Text.words_append_of_blank hgap, wordsOf]

theorem wordsOf_append_gap {gap : String} (hsome : gap ≠ "") (hgap : IsGap gap)
    (text rest : String) : wordsOf (text ++ (gap ++ rest)) = wordsOf text ++ wordsOf rest := by
  have hchars : gap.toList ≠ [] := String.toList_eq_nil_iff.not.mpr hsome
  rw [wordsOf, String.toList_append, String.toList_append, Text.words_append_gap hchars hgap,
    List.map_append, wordsOf, wordsOf]

theorem wordsOf_eq_nil_iff {text : String} : wordsOf text = [] ↔ IsGap text := by
  rw [wordsOf, List.map_eq_nil_iff]
  exact Text.words_eq_nil_iff

/-- A gap at the end adds no word. -/
theorem wordsOf_append_back {back : String} (hback : IsGap back) (text : String) :
    wordsOf (text ++ back) = wordsOf text := by
  by_cases hsome : back = ""
  · rw [hsome, String.append_empty]
  · have hapart := wordsOf_append_gap hsome hback text ""
    rwa [String.append_empty, show wordsOf "" = [] from rfl, List.append_nil] at hapart

/-! ### Layouts -/

/-- A word with the gap in front of it, which is not empty. -/
structure Spaced where
  gap : String
  word : String
  gap_ne : gap ≠ ""
  isGap : IsGap gap
  isWord : IsWord word

/-- Words in a row with gaps between them, and with gaps at the ends that may be empty. -/
structure Layout where
  front : String
  first : String
  more : List Spaced
  back : String
  front_isGap : IsGap front
  first_isWord : IsWord first
  back_isGap : IsGap back

namespace Layout

/-- The words of a layout: there is at least one. -/
def words (layout : Layout) : List String := layout.first :: layout.more.map Spaced.word

/-- The line that shows a layout. -/
def line (layout : Layout) : String :=
  layout.front ++ (layout.first ++
    (String.join (layout.more.map fun spaced => spaced.gap ++ spaced.word) ++ layout.back))

end Layout

theorem wordsOf_append_join {first : String} (hfirst : IsWord first) (more : List Spaced) :
    wordsOf (first ++ String.join (more.map fun spaced => spaced.gap ++ spaced.word)) =
      first :: more.map Spaced.word := by
  induction more generalizing first with
  | nil =>
      rw [List.map_nil, List.map_nil, show String.join [] = "" from rfl, String.append_empty,
        hfirst.wordsOf_eq]
  | cons spaced rest ih =>
      rw [List.map_cons, List.map_cons, String.join_cons, String.append_assoc,
        wordsOf_append_gap spaced.gap_ne spaced.isGap, ih spaced.isWord, hfirst.wordsOf_eq]
      rfl

namespace Layout

/-- The line of a layout has its words. -/
theorem wordsOf_line (layout : Layout) : wordsOf layout.line = layout.words := by
  rw [line, wordsOf_gap_append layout.front_isGap, ← String.append_assoc,
    wordsOf_append_back layout.back_isGap, wordsOf_append_join layout.first_isWord, words]

/-- What stands in front of all other words: a gap that may be empty, and the first word up to the
blank behind it. -/
theorem exists_first_word {line : String} (hsome : ¬ IsGap line) :
    ∃ gap word rest, line = gap ++ (word ++ rest) ∧ IsGap gap ∧ IsWord word ∧
      ∀ c ∈ rest.toList.head?, isBlank c = true := by
  let body := line.toList.dropWhile isBlank
  have hbody : body ≠ [] := by
    intro hnil
    exact hsome (List.dropWhile_eq_nil_iff.mp hnil)
  obtain ⟨c, after, hcons⟩ := List.exists_cons_of_ne_nil hbody
  have hc : isBlank c = false := by
    have hstop := List.head?_dropWhile_not isBlank line.toList
    rwa [show line.toList.dropWhile isBlank = c :: after from hcons] at hstop
  have hword : body.takeWhile (fun c => !isBlank c) ≠ [] := by
    rw [hcons, List.takeWhile_cons_of_pos (by rw [hc]; rfl)]
    exact List.cons_ne_nil _ _
  refine ⟨String.ofList (line.toList.takeWhile isBlank),
    String.ofList (body.takeWhile fun c => !isBlank c),
    String.ofList (body.dropWhile fun c => !isBlank c), ?_, ?_, isWord_ofList hword ?_, ?_⟩
  · rw [← String.ofList_append, List.takeWhile_append_dropWhile, ← String.ofList_append,
      List.takeWhile_append_dropWhile, String.ofList_toList]
  · intro d hd
    rw [String.toList_ofList] at hd
    exact List.mem_takeWhile_imp hd
  · intro d hd
    simpa using List.mem_takeWhile_imp hd
  · intro d hd
    rw [String.toList_ofList] at hd
    have hstop := List.head?_dropWhile_not (fun c => !isBlank c) body
    rw [Option.mem_def.mp hd] at hstop
    simpa using hstop

/-- Every line that is not blank has a layout. -/
theorem exists_line_eq {line : String} (hsome : ¬ IsGap line) :
    ∃ layout : Layout, layout.line = line := by
  obtain ⟨gap, word, rest, hline, hgap, hword, hend⟩ := exists_first_word hsome
  by_cases hrest : IsGap rest
  · exact ⟨⟨gap, word, [], rest, hgap, hword, hrest⟩, hline.symm⟩
  · have hshorter : rest.toList.length < line.toList.length := by
      have hlength := List.length_pos_iff.mpr hword.toList_ne_nil
      rw [hline, String.toList_append, String.toList_append, List.length_append,
        List.length_append]
      omega
    obtain ⟨behind, rfl⟩ := exists_line_eq hrest
    -- The word in front ends at a blank, so the gap between it and the others is not empty.
    have hapart : behind.front ≠ "" := by
      intro hempty
      obtain ⟨c, more, hfirst⟩ := List.exists_cons_of_ne_nil behind.first_isWord.toList_ne_nil
      have hblank := hend c (by simp [Layout.line, hempty, hfirst])
      rw [behind.first_isWord.2 c (by simp [hfirst])] at hblank
      cases hblank
    let next : Spaced :=
      ⟨behind.front, behind.first, hapart, behind.front_isGap, behind.first_isWord⟩
    refine ⟨⟨gap, word, next :: behind.more, behind.back, hgap, hword, behind.back_isGap⟩, ?_⟩
    rw [hline]
    simp [Layout.line, next, String.append_assoc]
termination_by line.toList.length

end Layout

/-! ### Reading a command -/

namespace Command

theorem parse?_eq_some_iff {line : String} {command : Command} :
    parse? line = some command ↔ wordsOf line = command.argv := by
  cases hwords : wordsOf line with
  | nil =>
      rw [parse?_of_no_words hwords]
      exact ⟨nofun, nofun⟩
  | cons executable arguments =>
      rw [parse?_of_words hwords, Option.some.injEq]
      constructor
      · rintro rfl
        rfl
      · intro hargv
        cases command
        cases hargv
        rfl

theorem parse?_eq_none_iff {line : String} : parse? line = none ↔ IsGap line := by
  rw [← wordsOf_eq_nil_iff]
  cases hwords : wordsOf line with
  | nil => exact iff_of_true (parse?_of_no_words hwords) rfl
  | cons executable arguments =>
      rw [parse?_of_words hwords]
      exact ⟨nofun, nofun⟩

/-- The words of a command are read again from themselves. -/
theorem parse?_intercalate_argv {line : String} {command : Command}
    (hread : parse? line = some command) :
    parse? (String.intercalate " " command.argv) = some command := by
  rw [parse?_eq_some_iff] at hread ⊢
  rw [wordsOf_intercalate]
  refine (flatMap_wordsOf_eq_iff command.argv).mpr fun word hword => ?_
  rw [← hread] at hword
  exact isWord_of_mem_wordsOf hword

/-- Reading undoes the layout of words in a line: from the line of every layout the words are read
as they are. A line is refused just where it is blank, and this is when an attempt to launch it
fails for an empty command. What is read from any other line are the words of a layout of it, and
they are read again from their line with single spaces. -/
theorem parse?_undoes_layout {τ σ : Type} [Moment τ] (layout : Layout) (line : String) :
    (∃ command, parse? layout.line = some command ∧ command.argv = layout.words) ∧
      (parse? line = none ↔ ∀ c ∈ line.toList, isBlank c = true) ∧
      (∀ (setup : RunnerSetup τ σ) (name : String) (world : World τ σ),
        name ∉ world.registry.names →
        (Refuses (spawn setup name line) world .emptyCommand ↔
          ∀ c ∈ line.toList, isBlank c = true)) ∧
      ∀ command, parse? line = some command →
        (∃ layout : Layout, layout.line = line ∧ layout.words = command.argv) ∧
        parse? (String.intercalate " " command.argv) = some command := by
  refine ⟨⟨⟨layout.first, layout.more.map Spaced.word⟩, ?_, rfl⟩, parse?_eq_none_iff, ?_, ?_⟩
  · rw [parse?_eq_some_iff, layout.wordsOf_line]
    rfl
  · intro setup name world hfree
    exact (spawn_refuses_blank_iff setup hfree).trans wordsOf_eq_nil_iff
  · intro command hread
    have hsome : ¬ IsGap line := by
      intro hblank
      rw [parse?_eq_none_iff.mpr hblank] at hread
      cases hread
    obtain ⟨layout, rfl⟩ := Layout.exists_line_eq hsome
    refine ⟨⟨layout, rfl, ?_⟩, parse?_intercalate_argv hread⟩
    rw [← layout.wordsOf_line, parse?_eq_some_iff.mp hread]

end Command

/-- Tabs, separators and wide spaces are gaps like any other. -/
def untidyLayout : Layout where
  front := "\u2003 "
  first := "npm"
  more := [⟨"\t\x1c", "run", by decide, by decide, by decide⟩,
    ⟨"\u00a0", "a=b", by decide, by decide, by decide⟩]
  back := "\r\n"
  front_isGap := by decide
  first_isWord := by decide
  back_isGap := by decide

theorem parse?_undoes_layout_untidy :
    (∃ command, Command.parse? "\u2003 npm\t\x1crun\u00a0a=b\r\n" = some command ∧
      command.argv = ["npm", "run", "a=b"]) ∧
      Command.parse? "npm  run" = some ⟨"npm", ["run"]⟩ ∧
      Command.parse? (String.intercalate " " ["npm", "run"]) = some ⟨"npm", ["run"]⟩ := by
  obtain ⟨hread, -, -, hagain⟩ :=
    Command.parse?_undoes_layout (τ := Rat) (σ := Unit) untidyLayout "npm  run"
  have hspaced : Command.parse? "npm  run" = some ⟨"npm", ["run"]⟩ := by decide
  exact ⟨hread, hspaced, (hagain ⟨"npm", ["run"]⟩ hspaced).2⟩

end SubgraphLauncher
