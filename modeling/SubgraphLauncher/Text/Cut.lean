/-!
# Cutting a text

A text is cut at every character of a class, which then separates two pieces; between two
neighbouring separators lies an empty piece. What a text is made of does not matter to that.
`splitFirst` cuts at one place only.
-/

namespace SubgraphLauncher.Text

/-- The pieces of a text between its separators; there is always at least one. -/
def cut {α : Type} (separates : α → Bool) : List α → List (List α)
  | [] => [[]]
  | c :: rest =>
    if separates c then [] :: cut separates rest
    else match cut separates rest with
      | [] => [[c]]
      | piece :: more => (c :: piece) :: more

/-- The text before the first `c`, and the text after it if there is one. -/
def splitFirst (c : Char) (s : List Char) : List Char × Option (List Char) :=
  match s.dropWhile (· != c) with
  | [] => (s, none)
  | _ :: rest => (s.takeWhile (· != c), some rest)

theorem cut_ne_nil {α : Type} (separates : α → Bool) (s : List α) : cut separates s ≠ [] := by
  induction s with
  | nil => simp [cut]
  | cons c rest ih =>
      simp only [cut]
      split
      · simp
      · split <;> simp

/-- A separator cuts a text in two, whatever stands on its sides. -/
theorem cut_append_cons {α : Type} {separates : α → Bool} {c : α} (hc : separates c = true)
    (x y : List α) : cut separates (x ++ c :: y) = cut separates x ++ cut separates y := by
  induction x with
  | nil => simp [cut, hc]
  | cons d x ih =>
      obtain ⟨piece, more, hx⟩ := List.exists_cons_of_ne_nil (cut_ne_nil separates x)
      by_cases hd : separates d = true
      · simp [cut, hd, ih]
      · simp [cut, hd, ih, hx]

/-- A text without a separator is one piece. -/
theorem cut_eq_singleton {α : Type} {separates : α → Bool} {s : List α}
    (h : ∀ c ∈ s, separates c = false) : cut separates s = [s] := by
  induction s with
  | nil => rfl
  | cons c rest ih =>
      have hc := h c List.mem_cons_self
      have hrest := ih fun d hd => h d (List.mem_cons_of_mem c hd)
      simp [cut, hc, hrest]

theorem splitFirst_append {c : Char} {before : List Char} (hbefore : c ∉ before)
    (rest : List Char) : splitFirst c (before ++ c :: rest) = (before, some rest) := by
  have hall : ∀ d ∈ before, (d != c) = true := by
    intro d hd
    refine bne_iff_ne.mpr fun heq => hbefore ?_
    rwa [← heq]
  simp [splitFirst, List.dropWhile_append_of_pos hall, List.takeWhile_append_of_pos hall]

theorem splitFirst_of_not_mem {c : Char} {s : List Char} (hs : c ∉ s) :
    splitFirst c s = (s, none) := by
  have hall : ∀ d ∈ s, (d != c) = true := by
    intro d hd
    refine bne_iff_ne.mpr fun heq => hs ?_
    rwa [← heq]
  have hnone : (s ++ []).dropWhile (· != c) = [] := List.dropWhile_append_of_pos hall
  rw [List.append_nil] at hnone
  rw [splitFirst, hnone]

end SubgraphLauncher.Text
