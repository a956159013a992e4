import HeaderEnum.Text.Split

/-!
# Cutting texts in stages

Cutting at either of two classes of characters is the same as cutting at the first class and then
each piece at the second, so a text may be read line by line and each line segment by segment. Line
ends may be unified in two passes, first those of two characters and then the carriage returns that
are left.
-/

namespace HeaderEnum.Text

/-- Cutting at either of two classes is cutting at the first and then each piece at the second. -/
theorem splitOnP_or (p q : Char → Bool) (text : List Char) :
    text.splitOnP (fun c => p c || q c) = (text.splitOnP p).flatMap (List.splitOnP q) := by
  induction text with
  | nil => rfl
  | cons c rest ih =>
    obtain ⟨first, others, hs⟩ := List.exists_cons_of_ne_nil (List.splitOnP_ne_nil p rest)
    rw [List.splitOnP_cons_eq_if_modifyHead, List.splitOnP_cons_eq_if_modifyHead, ih, hs]
    by_cases hp : p c = true
    · simp [hp]
    · obtain ⟨start, more, hq⟩ := List.exists_cons_of_ne_nil (List.splitOnP_ne_nil q first)
      by_cases hc : q c = true
      · simp [hp, hc, List.splitOnP_cons_eq_if_modifyHead]
      · simp [hp, hc, List.splitOnP_cons_eq_if_modifyHead, hq]

/-- The pieces of a text hold its characters in order, without the cuts. -/
theorem flatten_pieces (cut : Char → Bool) (text : List Char) :
    (pieces cut text).flatten = text.filter fun c => !cut c := by
  induction text with
  | nil => rfl
  | cons c rest ih =>
    rw [pieces]
    cases hc : cut c with
    | true => simp [hc, ih]
    | false =>
      rw [if_neg Bool.false_ne_true, List.filter_cons_of_pos (by simp [hc]), ← ih]
      split
      · rename_i he
        exact absurd he (pieces_ne_nil cut rest)
      · rename_i first others he
        rw [he]
        rfl

/-- Each carriage return right before a line feed goes; all others stay. -/
def dropReturnsBeforeFeeds : List Char → List Char
  | [] => []
  | '\r' :: '\n' :: rest => '\n' :: dropReturnsBeforeFeeds rest
  | c :: rest => c :: dropReturnsBeforeFeeds rest

/-- Each carriage return becomes a line feed. -/
def feedsForReturns (text : List Char) : List Char := text.map fun c => if c = '\r' then '\n' else c

/-- Line ends of two characters first and single carriage returns after them give the same as both
in one pass. -/
theorem unifyLineEnds_eq_two_passes (text : List Char) :
    unifyLineEnds text = feedsForReturns (dropReturnsBeforeFeeds text) := by
  fun_induction unifyLineEnds text with
  | case1 => rfl
  | case2 rest ih =>
    rw [dropReturnsBeforeFeeds, ih]
    simp [feedsForReturns]
  | case3 rest h ih =>
    rw [dropReturnsBeforeFeeds]
    · simp only [feedsForReturns, List.map_cons, ih, if_true]
    · intro other _ he
      exact h other he
  | case4 c rest h₁ h₂ ih =>
    have hc : c ≠ '\r' := fun he => h₂ he
    rw [dropReturnsBeforeFeeds]
    · simp only [feedsForReturns, List.map_cons, ih, if_neg hc]
    · intro other he
      exact absurd he hc

end HeaderEnum.Text
