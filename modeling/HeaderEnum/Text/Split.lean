/-!
# Pieces and lines

Cutting a text at every character of a class, joining lines, and giving all line ends one form.
Empty pieces are kept, so that a text always has one piece more than it has cuts.
-/

namespace HeaderEnum.Text

/-- Cut a text at each character of the class; the cut characters belong to no piece. -/
def pieces (cut : Char → Bool) : List Char → List (List Char)
  | [] => [[]]
  | c :: rest =>
    if cut c then [] :: pieces cut rest
    else match pieces cut rest with
      | [] => [[c]]
      | first :: others => (c :: first) :: others

/-- A text has at least one piece. -/
theorem pieces_ne_nil (cut : Char → Bool) (text : List Char) : pieces cut text ≠ [] := by
  cases text with
  | nil => simp [pieces]
  | cons c rest =>
    rw [pieces]
    split
    · simp
    · split <;> simp

/-- Cutting at one more character parts the pieces before it from those after it. -/
theorem pieces_append_cons {cut : Char → Bool} {c : Char} (before after : List Char)
    (h : cut c = true) :
    pieces cut (before ++ c :: after) = pieces cut before ++ pieces cut after := by
  induction before with
  | nil => simp [pieces, h]
  | cons d rest ih =>
    simp only [List.cons_append, pieces, ih]
    split
    · simp
    · cases hp : pieces cut rest with
      | nil => exact absurd hp (pieces_ne_nil cut rest)
      | cons first others => simp

/-- A text without cuts is one piece. -/
theorem pieces_of_forall {cut : Char → Bool} {text : List Char}
    (h : ∀ c ∈ text, cut c = false) : pieces cut text = [text] := by
  induction text with
  | nil => rfl
  | cons c rest ih =>
    have hc : cut c = false := h c (by simp)
    have hr := ih fun d hd => h d (by simp [hd])
    simp [pieces, hc, hr]

/-- No piece holds a cut. -/
theorem not_cut_of_mem_pieces {cut : Char → Bool} {text piece : List Char} {c : Char}
    (hp : piece ∈ pieces cut text) (hc : c ∈ piece) : cut c = false := by
  induction text generalizing piece with
  | nil =>
    simp only [pieces, List.mem_singleton] at hp
    simp [hp] at hc
  | cons d rest ih =>
    rw [pieces] at hp
    split at hp
    · rcases List.mem_cons.mp hp with rfl | hp
      · simp at hc
      · exact ih hp hc
    · rename_i hd
      split at hp
      · rename_i he
        exact absurd he (pieces_ne_nil cut rest)
      · rename_i first others he
        rcases List.mem_cons.mp hp with rfl | hp
        · rcases List.mem_cons.mp hc with rfl | hc
          · simpa using hd
          · exact ih (he ▸ List.mem_cons_self) hc
        · exact ih (he ▸ List.mem_cons_of_mem _ hp) hc

/-- Carriage return with line feed, and a carriage return alone, become one line feed. -/
def unifyLineEnds : List Char → List Char
  | [] => []
  | '\r' :: '\n' :: rest => '\n' :: unifyLineEnds rest
  | '\r' :: rest => '\n' :: unifyLineEnds rest
  | c :: rest => c :: unifyLineEnds rest

/-- No carriage return is left. -/
theorem not_mem_unifyLineEnds (text : List Char) : '\r' ∉ unifyLineEnds text := by
  fun_induction unifyLineEnds text with
  | case1 => exact List.not_mem_nil
  | case2 rest ih => exact List.not_mem_cons_of_ne_of_not_mem (by decide) ih
  | case3 rest _ ih => exact List.not_mem_cons_of_ne_of_not_mem (by decide) ih
  | case4 c rest _ hc ih => exact List.not_mem_cons_of_ne_of_not_mem (fun he => hc he.symm) ih

/-- A text without carriage returns stays as it is. -/
theorem unifyLineEnds_of_not_mem {text : List Char} (h : '\r' ∉ text) :
    unifyLineEnds text = text := by
  fun_induction unifyLineEnds text with
  | case1 => rfl
  | case2 rest _ => exact absurd List.mem_cons_self h
  | case3 rest _ _ => exact absurd List.mem_cons_self h
  | case4 c rest _ _ ih => rw [ih fun hm => h (List.mem_cons_of_mem c hm)]

/-- The text with every line end as one line feed. -/
def withLineFeeds (text : String) : String := String.ofList (unifyLineEnds text.toList)

/-- Write texts one after another with a separator between neighbours. -/
def joinWith (separator : String) : List String → String
  | [] => ""
  | [last] => last
  | first :: rest => first ++ separator ++ joinWith separator rest

/-- Write lines one below the other, with no line feed after the last. -/
def joinLines (lines : List String) : String := joinWith "\n" lines

end HeaderEnum.Text
