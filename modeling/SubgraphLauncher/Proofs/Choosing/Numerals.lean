import Mathlib.Data.List.Induction
import Mathlib.Data.List.TakeWhile
import Mathlib.Data.Nat.Digits.Defs
import SubgraphLauncher.Partner.Console

/-!
# Rows of digits

An answer is read as a number if it is a row of digits. Most such rows are numerals of the decimal
system, in any script, and have a value. But a row may also hold a digit that takes no part in
numerals, or be longer than a numeral that is read. These are false numerals: they pass for a
number and cannot be read as one. `judge_eq` says that on all other answers the chooser goes by the
value alone, and `judge_of_falseNumeral` that a false numeral makes it fail.
-/

namespace SubgraphLauncher

open SubgraphLauncher.Text SubgraphLauncher.Decimal

/-! ### What a text stands for -/

/-- The value of a numeral in the decimal digits of any script, the lowest of which comes last. -/
def numeral? (s : List Char) : Option Nat :=
  if !s.isEmpty && s.all (fun c => (decimalValue? c).isSome) then
    some (Nat.ofDigits 10 (s.reverse.map fun c => (decimalValue? c).getD 0))
  else none

/-- The index that an answer stands for among some candidates: a blank one for the first, and the
number of a candidate for that one. -/
def choice? (count : Nat) (answer : List Char) : Option Nat :=
  if answer.isEmpty then some 0
  else (numeral? answer).bind fun k => if 1 ≤ k ∧ k ≤ count then some (k - 1) else none

/-- Whether an answer is a row of digits that is no numeral, or one too long to be read. -/
def isFalseNumeral (answer : List Char) : Bool :=
  !answer.isEmpty && answer.all isDigit &&
    ((numeral? answer).isNone || digitLimit < answer.length)

/-! ### Single digits -/

section Digits

variable {c : Char}

/-- The digits as one class: ten from each base on, and the others. -/
def digitRanges : List (Nat × Nat) :=
  decimalZeros.map (fun base => (base, base + 9)) ++ otherDigitRanges

theorem inRanges_of_isDigit (hdigit : isDigit c = true) : inRanges digitRanges c = true := by
  rw [isDigit, Bool.or_eq_true, decimalValue?, Option.isSome_map] at hdigit
  rw [inRanges_eq_true_iff]
  rcases hdigit with hdecimal | hother
  · obtain ⟨base, hfind⟩ := Option.isSome_iff_exists.mp hdecimal
    have hbounds := List.find?_some hfind
    simp only [Bool.and_eq_true, decide_eq_true_eq] at hbounds
    refine ⟨(base, base + 9), List.mem_append_left _ ?_, hbounds.1, by omega⟩
    exact List.mem_map_of_mem (List.mem_of_find?_eq_some hfind)
  · obtain ⟨range, hmem, hbounds⟩ := inRanges_eq_true_iff.mp hother
    exact ⟨range, List.mem_append_right _ hmem, hbounds⟩

/-- A digit is no blank, so it pads no numeral. -/
theorem isPadding_of_isDigit (hdigit : isDigit c = true) : isPadding c = false := by
  have hapart : ∀ blank ∈ blankRanges, ∀ digit ∈ digitRanges,
      blank.2 < digit.1 ∨ digit.2 < blank.1 := by decide
  obtain ⟨digit, hdigit, hlow, hhigh⟩ := inRanges_eq_true_iff.mp (inRanges_of_isDigit hdigit)
  have hblank : isBlank c = false := by
    rw [Bool.eq_false_iff, isBlank, Ne, inRanges_eq_true_iff]
    rintro ⟨blank, hblank, hlow', hhigh'⟩
    have := hapart blank hblank digit hdigit
    omega
  rw [isPadding, hblank, Bool.false_and]

theorem isDigit_of_decimal (hdecimal : (decimalValue? c).isSome = true) : isDigit c = true := by
  rw [isDigit, hdecimal, Bool.true_or]

theorem decimal_of_isAsciiDigit (hascii : isAsciiDigit c = true) :
    (decimalValue? c).isSome = true := by
  simp only [isAsciiDigit, Bool.and_eq_true, decide_eq_true_eq, Char.le_def, UInt32.le_iff_toNat_le]
    at hascii
  have hlow : 0x30 ≤ c.toNat := hascii.1
  have hhigh : c.toNat ≤ 0x39 := hascii.2
  rw [decimalValue?, Option.isSome_map, List.find?_isSome]
  exact ⟨0x30, List.mem_cons_self, by simp; omega⟩

/-- A character of a numeral with its value in ASCII. -/
def plainChar (c : Char) : Char :=
  match decimalValue? c with
  | some d => Nat.digitChar d
  | none => c

theorem plainChar_of_some {d : Nat} (hvalue : decimalValue? c = some d) :
    plainChar c = Nat.digitChar d := by
  rw [plainChar, hvalue]

theorem plainChar_of_none (hvalue : decimalValue? c = none) : plainChar c = c := by
  rw [plainChar, hvalue]

/-- In ASCII, exactly the decimal digits stay digits. -/
theorem isAsciiDigit_plainChar : isAsciiDigit (plainChar c) = (decimalValue? c).isSome := by
  have hascii : ∀ d < 10, isAsciiDigit (Nat.digitChar d) = true := by decide
  cases hvalue : decimalValue? c with
  | some d =>
      rw [plainChar_of_some hvalue]
      exact hascii d (decimalValue?_lt hvalue)
  | none =>
      rw [plainChar_of_none hvalue, Option.isSome_none, Bool.eq_false_iff]
      intro hdigit
      have hsome := decimal_of_isAsciiDigit hdigit
      rw [hvalue] at hsome
      cases hsome

theorem digitValue_plainChar (hdecimal : (decimalValue? c).isSome = true) :
    digitValue (plainChar c) = (decimalValue? c).getD 0 := by
  have hsame : ∀ d < 10, digitValue (Nat.digitChar d) = d := by decide
  obtain ⟨d, hvalue⟩ := Option.isSome_iff_exists.mp hdecimal
  rw [plainChar_of_some hvalue, hvalue]
  exact hsame d (decimalValue?_lt hvalue)

theorem isDigit_plainChar (hdigit : isDigit c = true) : isDigit (plainChar c) = true := by
  have hascii : ∀ d < 10, isDigit (Nat.digitChar d) = true := by decide
  cases hvalue : decimalValue? c with
  | some d =>
      rw [plainChar_of_some hvalue]
      exact hascii d (decimalValue?_lt hvalue)
  | none =>
      rw [plainChar_of_none hvalue]
      exact hdigit

/-- What is no digit does not come out of one. -/
theorem plainChar_ne (hdigit : isDigit c = true) {mark : Char} (hmark : isDigit mark = false) :
    plainChar c ≠ mark := by
  rintro rfl
  exact Bool.eq_false_iff.mp hmark (isDigit_plainChar hdigit)

end Digits

/-! ### Rows of them -/

section Rows

variable {s : List Char}

theorem dropWhile_isPadding_of_digits (hdigits : ∀ c ∈ s, isDigit c = true) :
    s.dropWhile isPadding = s := by
  cases s with
  | nil => rfl
  | cons c rest =>
      have hpadding := isPadding_of_isDigit (hdigits c List.mem_cons_self)
      rw [List.dropWhile_cons_of_neg (Bool.eq_false_iff.mp hpadding)]

theorem plainNumeral_of_digits (hdigits : ∀ c ∈ s, isDigit c = true) :
    plainNumeral s = s.map plainChar := by
  have hreverse : ∀ c ∈ s.reverse, isDigit c = true :=
    fun c hc => hdigits c (List.mem_reverse.mp hc)
  rw [plainNumeral, dropWhile_isPadding_of_digits hdigits, dropWhile_isPadding_of_digits hreverse,
    List.reverse_reverse]
  rfl

theorem splitSign_of_unsigned (hminus : '-' ∉ s) (hplus : '+' ∉ s) : splitSign s = (false, s) := by
  unfold splitSign
  split
  · exact absurd List.mem_cons_self hminus
  · exact absurd List.mem_cons_self hplus
  · rfl

theorem joinGroups_of_ungrouped (before : Option Char) (hnone : '_' ∉ s) :
    joinGroups before s = some s := by
  induction s generalizing before with
  | nil => rw [joinGroups]
  | cons c rest ih =>
      obtain ⟨hc, hrest⟩ := not_or.mp (List.mem_cons.not.mp hnone)
      rw [joinGroups, ih (some c) hrest]
      · rfl
      · exact fun hmark => hc hmark.symm

/-- Of a row of digits, the leading decimal ones are read. -/
theorem takeWhile_plainChar (hdigits : ∀ c ∈ s, isDigit c = true) :
    ((s.map plainChar).takeWhile fun c => isAsciiDigit c || c == '_') =
      (s.takeWhile fun c => (decimalValue? c).isSome).map plainChar := by
  rw [List.takeWhile_map]
  congr 1
  induction s with
  | nil => rfl
  | cons c rest ih =>
      obtain ⟨hc, hrest⟩ := List.forall_mem_cons.mp hdigits
      have hmark : (plainChar c == '_') = false := beq_false_of_ne (plainChar_ne hc (by decide))
      simp only [List.takeWhile_cons, Function.comp_apply, isAsciiDigit_plainChar, hmark,
        Bool.or_false]
      rw [← ih hrest]

/-- A row of digits holds no sign and no underscore, and its plain form does not either. -/
theorem not_mem_map_plainChar (hdigits : ∀ c ∈ s, isDigit c = true) {mark : Char}
    (hmark : isDigit mark = false) : mark ∉ s.map plainChar := by
  intro hmem
  obtain ⟨c, hc, hsame⟩ := List.mem_map.mp hmem
  exact plainChar_ne (hdigits c hc) hmark hsame

/-- Whether a row of digits is read depends on how many decimal digits lead it. -/
theorem readWhole_of_digits (hdigits : ∀ c ∈ s, isDigit c = true) :
    readWhole s =
      let read := s.takeWhile fun c => (decimalValue? c).isSome
      if digitLimit < read.length then .error (.tooLong read.length)
      else if read = [] ∨ read.length ≠ s.length then .error .malformed
      else .ok (positional (read.map plainChar)) := by
  have hread : ∀ c ∈ s.takeWhile fun c => (decimalValue? c).isSome, isDigit c = true :=
    fun c hc => hdigits c ((List.takeWhile_prefix _).subset hc)
  have hminus : '-' ∉ s.map plainChar := not_mem_map_plainChar hdigits (by decide)
  have hplus : '+' ∉ s.map plainChar := not_mem_map_plainChar hdigits (by decide)
  have hgroups := not_mem_map_plainChar hread (show isDigit '_' = false by decide)
  -- without a sign and without underscores, reading comes down to how far the row goes
  rw [readWhole, plainNumeral_of_digits hdigits, splitSign_of_unsigned hminus hplus]
  dsimp only
  rw [takeWhile_plainChar hdigits, joinGroups_of_ungrouped none hgroups]
  simp [withSign]

/-- Reading from the left gives the digits their places. -/
theorem positional_plainChar (hdecimal : ∀ c ∈ s, (decimalValue? c).isSome = true) :
    positional (s.map plainChar) =
      Nat.ofDigits 10 (s.reverse.map fun c => (decimalValue? c).getD 0) := by
  induction s using List.reverseRecOn with
  | nil => rfl
  | append_singleton front last ih =>
      obtain ⟨hfront, hlast⟩ := List.forall_mem_append.mp hdecimal
      have hvalue := digitValue_plainChar (hlast last List.mem_cons_self)
      rw [List.reverse_append, List.reverse_singleton, List.singleton_append, List.map_cons,
        Nat.ofDigits_cons, ← ih hfront, positional, positional, List.map_append, List.foldl_append]
      simp [hvalue, Nat.add_comm]

end Rows

/-! ### Reading and judging an answer -/

section Answers

variable {answer : List Char}

theorem numeral?_eq_some_iff {k : Nat} :
    numeral? answer = some k ↔
      (answer ≠ [] ∧ ∀ c ∈ answer, (decimalValue? c).isSome = true) ∧
        Nat.ofDigits 10 (answer.reverse.map fun c => (decimalValue? c).getD 0) = k := by
  simp [numeral?]

theorem isFalseNumeral_iff :
    isFalseNumeral answer = true ↔
      answer ≠ [] ∧ (∀ c ∈ answer, isDigit c = true) ∧
        (numeral? answer = none ∨ digitLimit < answer.length) := by
  simp [isFalseNumeral, and_assoc]

theorem isDigit_of_numeral {k : Nat} (hvalue : numeral? answer = some k) :
    ∀ c ∈ answer, isDigit c = true :=
  fun c hc => isDigit_of_decimal ((numeral?_eq_some_iff.mp hvalue).1.2 c hc)

/-- A numeral of bearable length is read, and has its value. -/
theorem readWhole_of_numeral {k : Nat} (hvalue : numeral? answer = some k)
    (hlength : answer.length ≤ digitLimit) : readWhole answer = .ok k := by
  obtain ⟨⟨hne, hdecimal⟩, hsum⟩ := numeral?_eq_some_iff.mp hvalue
  have hall : (answer.takeWhile fun c => (decimalValue? c).isSome) = answer :=
    List.takeWhile_eq_self_iff.mpr hdecimal
  rw [readWhole_of_digits (isDigit_of_numeral hvalue)]
  dsimp only
  rw [hall, if_neg (Nat.not_lt.mpr hlength), if_neg (by simp [hne]),
    positional_plainChar hdecimal, hsum]

/-- A false numeral is not read. -/
theorem exists_fault_of_falseNumeral (hfalse : isFalseNumeral answer = true) :
    ∃ fault, readWhole answer = .error fault := by
  obtain ⟨hne, hdigits, hfault⟩ := isFalseNumeral_iff.mp hfalse
  rw [readWhole_of_digits hdigits]
  dsimp only
  split
  · exact ⟨_, rfl⟩
  rename_i hread
  refine ⟨.malformed, if_pos (.inr ?_)⟩
  -- if all of the row were read, it would be a numeral, and short enough to have a value
  intro hlength
  have hall : (answer.takeWhile fun c => (decimalValue? c).isSome) = answer :=
    (List.takeWhile_prefix _).eq_of_length hlength
  rcases hfault with hnone | hlong
  · have hdecimal := List.takeWhile_eq_self_iff.mp hall
    have hsome := numeral?_eq_some_iff.mpr ⟨⟨hne, hdecimal⟩, rfl⟩
    cases hnone.symm.trans hsome
  · exact hread (hlength ▸ hlong)

variable (count : Nat)

theorem judge_of_falseNumeral (hfalse : isFalseNumeral answer = true) :
    ∃ fault, readWhole answer = .error fault ∧ judge count answer = .failed fault := by
  obtain ⟨fault, hfault⟩ := exists_fault_of_falseNumeral hfalse
  obtain ⟨hne, hdigits, -⟩ := isFalseNumeral_iff.mp hfalse
  refine ⟨fault, hfault, ?_⟩
  rw [judge, if_neg (by simpa using hne), if_pos (List.all_eq_true.mpr hdigits), hfault]

/-- All other answers are taken for what they stand for. -/
theorem judge_eq (hfalse : isFalseNumeral answer = false) :
    judge count answer = (choice? count answer).elim .rejected .chosen := by
  have hnumeral := isFalseNumeral_iff.not.mp (Bool.eq_false_iff.mp hfalse)
  by_cases hblank : answer = []
  · subst hblank
    rfl
  have hgiven : ¬ answer.isEmpty = true := by simpa using hblank
  rw [judge, choice?, if_neg hgiven, if_neg hgiven]
  by_cases hdigits : ∀ c ∈ answer, isDigit c = true
  · rw [if_pos (List.all_eq_true.mpr hdigits)]
    cases hvalue : numeral? answer with
    | none => exact absurd ⟨hblank, hdigits, .inl hvalue⟩ hnumeral
    | some k =>
        have hlength : answer.length ≤ digitLimit :=
          Nat.not_lt.mp fun hlong => hnumeral ⟨hblank, hdigits, .inr hlong⟩
        have hlisted : 1 ≤ (k : Int) ∧ (k : Int) ≤ count ↔ 1 ≤ k ∧ k ≤ count := by omega
        rw [readWhole_of_numeral hvalue hlength, Option.bind_some]
        dsimp only
        simp only [hlisted, Int.toNat_natCast]
        split <;> rfl
  · have hvalue : numeral? answer = none := by
      rw [Option.eq_none_iff_forall_ne_some]
      exact fun k hk => hdigits (isDigit_of_numeral hk)
    rw [if_neg (List.all_eq_true.not.mpr hdigits), hvalue]
    rfl

/-- An answer stands for an index of the list. -/
theorem choice?_lt {index : Nat} (hcount : 0 < count)
    (hchoice : choice? count answer = some index) : index < count := by
  unfold choice? at hchoice
  split at hchoice
  · cases hchoice
    exact hcount
  · rw [Option.bind_eq_some_iff] at hchoice
    obtain ⟨k, -, hk⟩ := hchoice
    split at hk
    · cases hk
      omega
    · cases hk

end Answers

end SubgraphLauncher
