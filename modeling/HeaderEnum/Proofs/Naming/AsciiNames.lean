import HeaderEnum.Naming.Affix
import HeaderEnum.Naming.Style
import HeaderEnum.Proofs.Letter.Ascii
import HeaderEnum.Proofs.Naming.Tokens

/-!
# Names over ASCII

Stripping takes a part of a name and spelling changes only the case of its letters or leaves
separators out, so a name of ASCII letters, digits and underscores stays one in every style.
-/

namespace HeaderEnum.Naming

open Letter (IsAsciiWordText)

/-- A name without a prefix holds no new characters. -/
theorem withoutPrefix_subset (prefixes : List (List Char)) (name : List Char) :
    withoutPrefix prefixes name ⊆ name := List.drop_subset _ name

/-- A name without a suffix holds no new characters. -/
theorem withoutSuffix_subset (suffixes : List (List Char)) (name : List Char) :
    withoutSuffix suffixes name ⊆ name := List.take_subset _ name

/-- A name without affixes holds no new characters. -/
theorem dropAffixes_subset (name : String) (prefixes suffixes : List String) :
    (dropAffixes name prefixes suffixes).toList ⊆ name.toList := by
  rw [dropAffixes, dropSuffix, dropPrefix, String.toList_ofList, String.toList_ofList]
  exact List.Subset.trans (withoutSuffix_subset _ _) (withoutPrefix_subset _ _)

/-- Capitalized ASCII tokens make an ASCII name. -/
theorem isAsciiWordText_upperCamelOfTokens {words : List (List Char)}
    (h : ∀ word ∈ words, IsAsciiWordText word) : IsAsciiWordText (upperCamelOfTokens words) := by
  intro c hc
  obtain ⟨word, hw, hm⟩ := List.mem_flatMap.mp hc
  exact (h word hw).capitalized c hm

/-- A small ASCII token and capitalized ones make an ASCII name. -/
theorem isAsciiWordText_lowerCamelOfTokens {words : List (List Char)}
    (h : ∀ word ∈ words, IsAsciiWordText word) : IsAsciiWordText (lowerCamelOfTokens words) := by
  cases words with
  | nil => exact fun c hc => absurd hc List.not_mem_nil
  | cons first others =>
    have hf : IsAsciiWordText (Letter.lower first) := (h first List.mem_cons_self).lower
    have ho : IsAsciiWordText (upperCamelOfTokens others) :=
      isAsciiWordText_upperCamelOfTokens fun word hw => h word (List.mem_cons_of_mem _ hw)
    exact hf.append ho

/-- A camel-cased name either starts with no capital and stays as it is, or has a first part that is
put into small letters. -/
theorem lowerCamelOfCamel_cases (name : List Char) :
    (lowerCamelOfCamel name = name ∧ ∀ c ∈ name.head?, Letter.isUpper c = false) ∨
      ∃ first rest, first ≠ [] ∧ name = first ++ rest ∧
        lowerCamelOfCamel name = Letter.lower first ++ rest := by
  have hname : name.takeWhile Letter.isUpper ++ name.dropWhile Letter.isUpper = name :=
    List.takeWhile_append_dropWhile
  cases hc : name.takeWhile Letter.isUpper with
  | nil =>
    refine .inl ⟨by rw [lowerCamelOfCamel, hc], fun c hm => ?_⟩
    rw [hc, List.nil_append] at hname
    have hnot := List.head?_dropWhile_not Letter.isUpper name
    rw [hname, Option.mem_def.mp hm] at hnot
    exact hnot
  | cons capital more =>
    rw [hc] at hname
    have hne : name ≠ [] := by
      rw [← hname]
      exact List.cons_ne_nil _ _
    refine .inr ?_
    cases hr : name.dropWhile Letter.isUpper with
    | nil => exact ⟨name, [], hne, (List.append_nil name).symm, by simp [lowerCamelOfCamel, hc, hr]⟩
    | cons next rest =>
      rw [hr] at hname
      cases more with
      | nil => exact ⟨[capital], next :: rest, List.cons_ne_nil _ _, hname.symm,
          by simp [lowerCamelOfCamel, hc, hr]⟩
      | cons second more =>
        -- All capitals but the last are lowered; the last one begins the next word.
        refine ⟨(capital :: second :: more).dropLast,
          (capital :: second :: more).drop (more.length + 1) ++ next :: rest,
          List.cons_ne_nil _ _, ?_, by simp [lowerCamelOfCamel, hc, hr]⟩
        rw [List.dropLast_eq_take, ← List.append_assoc]
        exact hname.symm.trans (congrArg (· ++ _) (List.take_append_drop _ _).symm)

/-- A camel-cased ASCII name with its leading word in small letters is one. -/
theorem isAsciiWordText_lowerCamelOfCamel {name : List Char} (h : IsAsciiWordText name) :
    IsAsciiWordText (lowerCamelOfCamel name) := by
  rcases lowerCamelOfCamel_cases name with ⟨he, -⟩ | ⟨first, rest, -, hname, he⟩
  · rw [he]
    exact h
  · have hfirst := h.of_subset (hname ▸ List.subset_append_left first rest)
    have hrest := h.of_subset (hname ▸ List.subset_append_right first rest)
    rw [he]
    exact hfirst.lower.append hrest

/-- A spelled ASCII name is an ASCII name. -/
theorem isAsciiWordText_spell (style : CaseStyle) {name : List Char} (h : IsAsciiWordText name) :
    IsAsciiWordText (style.spell name) := by
  have htokens : ∀ word ∈ tokens name, IsAsciiWordText word :=
    fun word hw => h.of_subset (subset_of_mem_tokens hw)
  cases style with
  | keep => exact h
  | upperCamel =>
    rw [CaseStyle.spell]
    split
    · exact isAsciiWordText_upperCamelOfTokens htokens
    · cases name with
      | nil => exact h
      | cons c rest =>
        exact (h.upperChar List.mem_cons_self).append (h.of_subset (List.subset_cons_self c rest))
  | lowerCamel =>
    rw [CaseStyle.spell]
    split
    · exact isAsciiWordText_lowerCamelOfTokens htokens
    · exact isAsciiWordText_lowerCamelOfCamel h

end HeaderEnum.Naming
