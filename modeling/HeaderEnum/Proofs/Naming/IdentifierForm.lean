import HeaderEnum.Naming.Identifier
import HeaderEnum.Proofs.Letter.Ascii

/-!
# The form of identifiers

Every text becomes an identifier of one of three forms: the lone underscore, a text that starts with
neither an underscore nor a digit, and an underscore before a leading digit. All its characters are
word characters. Over ASCII the second form starts with a letter.
-/

namespace HeaderEnum.Naming

/-- The beginning of an identifier: a lone underscore, a character that is neither an underscore nor
a digit, or an underscore before a digit. -/
inductive StartsWell : List Char → Prop
  | underscore : StartsWell ['_']
  | letter {c : Char} {rest : List Char} : c ≠ '_' → Letter.isDigit c = false →
    StartsWell (c :: rest)
  | digit {c : Char} {rest : List Char} : Letter.isDigit c = true → StartsWell ('_' :: c :: rest)

/-- Runs are replaced by word characters only. -/
theorem isWord_of_mem_replaceRuns {running : Bool} {text : List Char} {c : Char}
    (h : c ∈ replaceRuns running text) : Letter.isWord c = true := by
  fun_induction replaceRuns running text with
  | case1 => simp at h
  | case2 running d rest hd ih =>
    rcases List.mem_cons.mp h with rfl | h
    · exact hd
    · exact ih h
  | case3 d rest hd ih => exact ih h
  | case4 running d rest hd hr ih =>
    rcases List.mem_cons.mp h with rfl | h
    · rfl
    · exact ih h

/-- A text of word characters has no runs to replace. -/
theorem replaceRuns_of_isWord {text : List Char} (h : ∀ c ∈ text, Letter.isWord c = true) :
    replaceRuns false text = text := by
  induction text with
  | nil => rfl
  | cons c rest ih =>
    rw [replaceRuns, if_pos (h c List.mem_cons_self), ih fun d hd => h d (List.mem_cons_of_mem _ hd)]

/-- Trimming leaves an end of the text. -/
theorem trimUnderscores_suffix (text : List Char) : trimUnderscores text <:+ text := by
  fun_induction trimUnderscores text with
  | case1 c rest ih => exact ih.trans (List.suffix_cons '_' (c :: rest))
  | case2 text h => exact List.suffix_rfl

/-- A trimmed text is empty, a lone underscore, or starts with something else. -/
theorem trimUnderscores_cases (text : List Char) :
    trimUnderscores text = [] ∨ trimUnderscores text = ['_'] ∨
      ∃ c rest, trimUnderscores text = c :: rest ∧ c ≠ '_' := by
  fun_induction trimUnderscores text with
  | case1 c rest ih => exact ih
  | case2 text h =>
    cases text with
    | nil => exact .inl rfl
    | cons c rest =>
      by_cases hc : c = '_'
      · subst hc
        cases rest with
        | nil => exact .inr (.inl rfl)
        | cons d others => exact absurd rfl (h d others)
      · exact .inr (.inr ⟨c, rest, rfl, hc⟩)

/-- A guarded text holds its characters and at most an underscore more. -/
theorem mem_guardFirst {text : List Char} {c : Char} (h : c ∈ guardFirst text) :
    c = '_' ∨ c ∈ text := by
  cases text with
  | nil => exact .inl (List.mem_singleton.mp h)
  | cons d rest =>
    rw [guardFirst] at h
    split at h
    · exact List.mem_cons.mp h
    · exact .inr h

/-- Every identifier starts well. -/
theorem startsWell_identifierOf (text : List Char) : StartsWell (identifierOf text) := by
  unfold identifierOf
  rcases trimUnderscores_cases (replaceRuns false text) with h | h | ⟨c, rest, h, hc⟩
  · rw [h]
    exact .underscore
  · rw [h]
    exact .underscore
  · rw [h, guardFirst]
    split
    · rename_i hd
      exact .digit hd
    · rename_i hd
      exact .letter hc (by simpa using hd)

/-- The characters of an identifier come from the text with its runs replaced, the underscore
apart. -/
theorem mem_identifierOf {text : List Char} {c : Char} (h : c ∈ identifierOf text) :
    c = '_' ∨ c ∈ replaceRuns false text :=
  (mem_guardFirst h).imp id fun hm => (trimUnderscores_suffix _).subset hm

/-- An identifier is made of word characters. -/
theorem isWord_of_mem_identifierOf {text : List Char} {c : Char} (h : c ∈ identifierOf text) :
    Letter.isWord c = true := by
  rcases mem_identifierOf h with rfl | hm
  · rfl
  · exact isWord_of_mem_replaceRuns hm

/-- The identifier of an ASCII word text is one too. -/
theorem isAsciiWordText_identifierOf {text : List Char} (h : Letter.IsAsciiWordText text) :
    Letter.IsAsciiWordText (identifierOf text) := by
  intro c hc
  rcases mem_identifierOf hc with rfl | hm
  · rfl
  · rw [replaceRuns_of_isWord fun d hd => Letter.isWord_of_isAsciiWord (h d hd)] at hm
    exact h c hm

/-- An ASCII identifier as it names a case: a letter and any word characters, an underscore before a
digit and any word characters, or a lone underscore. -/
inductive IsCaseName : List Char → Prop
  | letter {c : Char} {rest : List Char} : c.isAlpha = true → Letter.IsAsciiWordText rest →
    IsCaseName (c :: rest)
  | digit {c : Char} {rest : List Char} : c.isDigit = true → Letter.IsAsciiWordText rest →
    IsCaseName ('_' :: c :: rest)
  | underscore : IsCaseName ['_']

/-- An ASCII word text that starts well is a case name. -/
theorem isCaseName_of_startsWell {text : List Char} (ha : Letter.IsAsciiWordText text)
    (hs : StartsWell text) : IsCaseName text := by
  cases hs with
  | underscore => exact .underscore
  | @letter c rest hc hd =>
    have hw : Letter.isAsciiWord c = true := ha c List.mem_cons_self
    rw [Letter.isDigit_of_isAscii (Letter.isAscii_of_isAsciiWord hw)] at hd
    have hl : c.isAlpha = true := by
      simpa [Letter.isAsciiWord, hc, Char.isAlphanum, hd] using hw
    exact .letter hl (ha.of_subset (List.subset_cons_self c rest))
  | @digit c rest hd =>
    have hm : c ∈ '_' :: c :: rest := by simp
    rw [Letter.isDigit_of_isAscii (ha.isAscii c hm)] at hd
    exact .digit hd (ha.of_subset fun d h => List.mem_cons_of_mem _ (List.mem_cons_of_mem _ h))

/-- Case names are ASCII word texts. -/
theorem IsCaseName.isAsciiWordText {text : List Char} (h : IsCaseName text) :
    Letter.IsAsciiWordText text := by
  cases h with
  | @letter c rest hc hr =>
    intro d hd
    rcases List.mem_cons.mp hd with rfl | hd
    · simp [Letter.isAsciiWord, Char.isAlphanum, hc]
    · exact hr d hd
  | @digit c rest hc hr =>
    intro d hd
    rcases List.mem_cons.mp hd with rfl | hd
    · rfl
    · rcases List.mem_cons.mp hd with rfl | hd
      · simp [Letter.isAsciiWord, Char.isAlphanum, hc]
      · exact hr d hd
  | underscore =>
    intro d hd
    rw [List.mem_singleton.mp hd]
    rfl

end HeaderEnum.Naming
