import HeaderEnum.Naming.Style
import HeaderEnum.Proofs.Text.Cuts
import Mathlib.Data.List.TakeWhile

/-!
# Tokens of a name

A name is read as tokens with separators around them, each token a maximal run of characters that
are no separators. A name can be read in one way only, so splitting it undoes every joining of
tokens, whatever separators stand between them and at either end, and a gap parts the tokens before
it from those behind it. Cutting at each separator and cutting at whole runs of separators give the
same tokens: the pieces differ only in empty ones. How tokens are spelled does not matter here.
-/

namespace HeaderEnum.Naming

/-- A token: not empty, and free of separators. -/
structure IsToken (token : List Char) : Prop where
  /-- It holds at least one character. -/
  ne_nil : token ≠ []
  /-- None of its characters is a separator. -/
  noSeparator : ∀ c ∈ token, isSeparator c = false

/-- A gap: not empty, and nothing but separators. -/
structure IsGap (gap : List Char) : Prop where
  /-- It holds at least one character. -/
  ne_nil : gap ≠ []
  /-- All of its characters are separators. -/
  onlySeparators : ∀ c ∈ gap, isSeparator c = true

instance (token : List Char) : Decidable (IsToken token) :=
  decidable_of_iff (token ≠ [] ∧ token.any isSeparator = false)
    ⟨fun h => ⟨h.1, fun c hc => eq_false_of_ne_true (List.any_eq_false.mp h.2 c hc)⟩,
      fun h => ⟨h.ne_nil,
        List.any_eq_false.mpr fun c hc => ne_true_of_eq_false (h.noSeparator c hc)⟩⟩

instance (gap : List Char) : Decidable (IsGap gap) :=
  decidable_of_iff (gap ≠ [] ∧ gap.all isSeparator = true)
    ⟨fun h => ⟨h.1, List.all_eq_true.mp h.2⟩,
      fun h => ⟨h.ne_nil, List.all_eq_true.mpr h.onlySeparators⟩⟩

/-- How a text is read as tokens: separators are passed over, and a token ends only before a
separator or with the text. -/
inductive TokensOf : List Char → List (List Char) → Prop
  | nil : TokensOf [] []
  | separator {c : Char} {rest : List Char} {words : List (List Char)} :
    isSeparator c = true → TokensOf rest words → TokensOf (c :: rest) words
  | token {word rest : List Char} {words : List (List Char)} :
    IsToken word → (∀ c ∈ rest.head?, isSeparator c = true) → TokensOf rest words →
      TokensOf (word ++ rest) (word :: words)

/-- What is left behind a run of separators is shorter than the text. -/
theorem length_behindGap_lt {text rest : List Char} {c : Char}
    (h : text.dropWhile (!isSeparator ·) = c :: rest) :
    (rest.dropWhile isSeparator).length < text.length :=
  calc (rest.dropWhile isSeparator).length
    _ ≤ rest.length := List.length_dropWhile_le _ rest
    _ < (c :: rest).length := Nat.lt_succ_self rest.length
    _ = (text.dropWhile (!isSeparator ·)).length := by rw [h]
    _ ≤ text.length := List.length_dropWhile_le _ text

/-- The pieces of a text between its runs of separators, each run taken as far as it goes. A run at
either end has an empty piece beyond it. -/
def piecesBetweenGaps (text : List Char) : List (List Char) :=
  match _ : text.dropWhile (!isSeparator ·) with
  | [] => [text]
  | _ :: rest => text.takeWhile (!isSeparator ·) :: piecesBetweenGaps (rest.dropWhile isSeparator)
termination_by text.length
decreasing_by exact length_behindGap_lt ‹_›

/-- Separators are the underscore and all characters that are no word characters. -/
theorem isSeparator_iff {c : Char} :
    isSeparator c = true ↔ c = '_' ∨ Letter.isWord c = false := by
  by_cases hc : c = '_'
  · subst hc
    exact iff_of_true (by decide) (.inl rfl)
  · have hword : Letter.isWord c = Letter.isAlphanumeric c := by
      rw [Letter.isWord, beq_eq_false_iff_ne.mpr hc, Bool.false_or]
    rw [isSeparator, hword, Bool.not_eq_true', or_iff_right hc]

/-! ## The characters of tokens -/

/-- No token is empty. -/
theorem ne_nil_of_mem_tokens {name token : List Char} (h : token ∈ tokens name) : token ≠ [] :=
  of_decide_eq_true (List.mem_filter.mp h).2

/-- What a name is split into are tokens. -/
theorem isToken_of_mem_tokens {name token : List Char} (h : token ∈ tokens name) :
    IsToken token := by
  have hpiece : token ∈ Text.pieces isSeparator name := (List.mem_filter.mp h).1
  exact ⟨ne_nil_of_mem_tokens h, fun c hc => Text.not_cut_of_mem_pieces hpiece hc⟩

/-- The tokens of a name hold its characters in order, without the separators. -/
theorem flatten_tokens_eq_filter (name : List Char) :
    (tokens name).flatten = name.filter fun c => !isSeparator c := by
  rw [tokens, List.flatten_filter_ne_nil, Text.flatten_pieces]

/-- The characters of a token are those of the name. -/
theorem subset_of_mem_tokens {name token : List Char} (h : token ∈ tokens name) : token ⊆ name := by
  intro c hc
  have hs : c ∈ (tokens name).flatten := List.mem_flatten.mpr ⟨token, h, hc⟩
  rw [flatten_tokens_eq_filter] at hs
  exact (List.mem_filter.mp hs).1

/-! ## Splitting reads tokens -/

/-- A separator parts the tokens before it from those behind it. -/
theorem tokens_append_cons {c : Char} (h : isSeparator c = true) (before after : List Char) :
    tokens (before ++ c :: after) = tokens before ++ tokens after := by
  rw [tokens, Text.pieces_append_cons before after h, List.filter_append, ← tokens, ← tokens]

/-- A separator in front belongs to no token. -/
theorem tokens_cons {c : Char} (h : isSeparator c = true) (rest : List Char) :
    tokens (c :: rest) = tokens rest := tokens_append_cons h [] rest

/-- A token alone is split into itself. -/
theorem tokens_of_isToken {word : List Char} (h : IsToken word) : tokens word = [word] := by
  rw [tokens, Text.pieces_of_forall h.noSeparator]
  exact List.filter_cons_of_pos (decide_eq_true h.ne_nil)

/-- A token before a separator, or before the end, comes first. -/
theorem tokens_append {word rest : List Char} (h : IsToken word)
    (hr : ∀ c ∈ rest.head?, isSeparator c = true) :
    tokens (word ++ rest) = word :: tokens rest := by
  cases rest with
  | nil =>
    rw [List.append_nil]
    exact tokens_of_isToken h
  | cons c rest =>
    have hc : isSeparator c = true := hr c rfl
    rw [tokens_append_cons hc, tokens_of_isToken h, tokens_cons hc, List.singleton_append]

/-- Splitting a text finds the tokens that it is read as. -/
theorem TokensOf.tokens_eq {text : List Char} {words : List (List Char)} (h : TokensOf text words) :
    tokens text = words := by
  induction h with
  | nil => rfl
  | separator hc _ ih => rw [tokens_cons hc, ih]
  | token hw hr _ ih => rw [tokens_append hw hr, ih]

/-! ## Gaps and joinings -/

/-- A text that begins with a gap begins with a separator. -/
theorem IsGap.first {gap : List Char} (h : IsGap gap) (after : List Char) :
    ∀ c ∈ (gap ++ after).head?, isSeparator c = true := by
  obtain ⟨d, more, rfl⟩ := List.exists_cons_of_ne_nil h.ne_nil
  intro c hc
  rw [← Option.some.inj hc]
  exact h.onlySeparators d List.mem_cons_self

/-- Separators in front do not count. -/
theorem TokensOf.behind {front text : List Char} {words : List (List Char)}
    (hf : ∀ c ∈ front, isSeparator c = true) (h : TokensOf text words) :
    TokensOf (front ++ text) words := by
  induction front with
  | nil => exact h
  | cons c front ih =>
    have hc : isSeparator c = true := hf c List.mem_cons_self
    exact .separator hc (ih fun d hd => hf d (List.mem_cons_of_mem _ hd))

/-- Two texts with a gap between them are read one after the other. -/
theorem TokensOf.append {before gap after : List Char} {words others : List (List Char)}
    (hb : TokensOf before words) (hg : IsGap gap) (ha : TokensOf after others) :
    TokensOf (before ++ gap ++ after) (words ++ others) := by
  induction hb with
  | nil => exact ha.behind hg.onlySeparators
  | separator hc _ ih => exact .separator hc ih
  | @token word rest words hw hr _ ih =>
    -- The gap ends the token that the first text may end with.
    have hnext : ∀ c ∈ (rest ++ gap ++ after).head?, isSeparator c = true := by
      cases rest with
      | nil => exact hg.first after
      | cons c rest => exact hr
    have htoken : TokensOf (word ++ (rest ++ gap ++ after)) (word :: (words ++ others)) :=
      .token hw hnext ih
    rwa [← List.append_assoc, ← List.append_assoc] at htoken

/-- Tokens with a gap between neighbours, and any separators behind the last, are read as these
tokens. -/
theorem tokensOf_joined {words : List (List Char)} {gap after : List Char}
    (hw : ∀ word ∈ words, IsToken word) (hg : IsGap gap)
    (ha : ∀ c ∈ after, isSeparator c = true) :
    TokensOf (gap.intercalate words ++ after) words := by
  have hend : TokensOf after [] := by
    have h := TokensOf.nil.behind ha
    rwa [List.append_nil] at h
  induction words with
  | nil => exact hend
  | cons word words ih =>
    have hword : IsToken word := hw word List.mem_cons_self
    have hothers := ih fun other hm => hw other (List.mem_cons_of_mem _ hm)
    cases words with
    | nil =>
      rw [List.intercalate_singleton]
      exact .token hword (fun c hc => ha c (List.mem_of_mem_head? hc)) hend
    | cons next words =>
      rw [List.intercalate_cons_cons, List.append_assoc, List.append_assoc]
      exact .token hword (hg.first _) (hothers.behind hg.onlySeparators)

/-! ## Every text is read -/

/-- A piece without separators is a token, unless it is empty. -/
theorem TokensOf.piece {piece rest : List Char} {pieces : List (List Char)}
    (hp : ∀ c ∈ piece, isSeparator c = false) (hr : ∀ c ∈ rest.head?, isSeparator c = true)
    (h : TokensOf rest (pieces.filter (· ≠ []))) :
    TokensOf (piece ++ rest) ((piece :: pieces).filter (· ≠ [])) := by
  cases piece with
  | nil => exact h
  | cons c piece => exact .token ⟨List.cons_ne_nil c piece, hp⟩ hr h

/-- A text is read as its pieces between runs of separators, the empty ones apart. -/
theorem tokensOf_piecesBetweenGaps (text : List Char) :
    TokensOf text ((piecesBetweenGaps text).filter (· ≠ [])) := by
  fun_induction piecesBetweenGaps text with
  | case1 text h =>
    have hpiece : ∀ c ∈ text, isSeparator c = false :=
      fun c hc => by simpa using List.dropWhile_eq_nil_iff.mp h c hc
    have hread : TokensOf (text ++ []) ([text].filter (· ≠ [])) := .piece hpiece (by simp) .nil
    rwa [List.append_nil] at hread
  | case2 text c rest h ih =>
    have hpiece : ∀ d ∈ text.takeWhile (!isSeparator ·), isSeparator d = false :=
      fun d hd => by simpa using List.mem_takeWhile_imp hd
    have hc : isSeparator c = true := by
      have hnot := List.head?_dropWhile_not (!isSeparator ·) text
      rw [h] at hnot
      simpa using hnot
    have hrun : ∀ d ∈ rest.takeWhile isSeparator, isSeparator d = true :=
      fun d hd => List.mem_takeWhile_imp hd
    have hrest := ih.behind hrun
    rw [List.takeWhile_append_dropWhile] at hrest
    have hnext : ∀ d ∈ (c :: rest).head?, isSeparator d = true :=
      fun d hd => Option.some.inj hd ▸ hc
    have hread := TokensOf.piece hpiece hnext (.separator hc hrest)
    rwa [← h, List.takeWhile_append_dropWhile] at hread

/-- Cutting at each separator and cutting at whole runs of separators give the same tokens. -/
theorem tokens_eq_filter_piecesBetweenGaps (name : List Char) :
    tokens name = (piecesBetweenGaps name).filter (· ≠ []) :=
  (tokensOf_piecesBetweenGaps name).tokens_eq

/-- Every name is read as its tokens. -/
theorem tokensOf_tokens (name : List Char) : TokensOf name (tokens name) := by
  rw [tokens_eq_filter_piecesBetweenGaps]
  exact tokensOf_piecesBetweenGaps name

/-- The tokens of a name are the one list that it is read as. -/
theorem tokens_eq_iff {name : List Char} {words : List (List Char)} :
    tokens name = words ↔ TokensOf name words :=
  ⟨fun h => h ▸ tokensOf_tokens name, fun h => h.tokens_eq⟩

/-- Splitting undoes joining. Separators are the underscore and all characters that are no word
characters. The tokens of a name are its pieces between runs of separators, the empty ones apart;
they are not empty and free of separators, and one after another they are the name without its
separators. A gap parts the tokens of what stands before it from those of what stands behind it.
Tokens with a gap between neighbours, and any separators at either end, are found again. Gaps may
also differ from each other, since the tokens of a name are whatever it is read as. -/
theorem tokens_undo_joining :
    (∀ c, isSeparator c = true ↔ c = '_' ∨ Letter.isWord c = false) ∧
    (∀ name, tokens name = (piecesBetweenGaps name).filter (· ≠ []) ∧
      (∀ token ∈ tokens name, IsToken token) ∧
      (tokens name).flatten = name.filter fun c => !isSeparator c) ∧
    (∀ before gap after, IsGap gap →
      tokens (before ++ gap ++ after) = tokens before ++ tokens after) ∧
    (∀ words gap before after, (∀ word ∈ words, IsToken word) → IsGap gap →
      (∀ c ∈ before, isSeparator c = true) → (∀ c ∈ after, isSeparator c = true) →
        tokens (before ++ gap.intercalate words ++ after) = words) ∧
    ∀ name words, tokens name = words ↔ TokensOf name words := by
  refine ⟨fun c => isSeparator_iff,
    fun name => ⟨tokens_eq_filter_piecesBetweenGaps name, fun token h => isToken_of_mem_tokens h,
      flatten_tokens_eq_filter name⟩,
    fun before gap after hg => ?_, fun words gap before after hw hg hb ha => ?_,
    fun name words => tokens_eq_iff⟩
  · have hread := (tokensOf_tokens before).append hg (tokensOf_tokens after)
    exact hread.tokens_eq
  · have hread := (tokensOf_joined hw hg ha).behind hb
    rw [← List.append_assoc] at hread
    exact hread.tokens_eq

/-- Three tokens, one with an accent and one a fraction, between separators that are runs of several
characters and a combining accent; and a gap that meets separators on both sides. -/
theorem tokens_undo_joining_accents :
    let words := ["Powér2".toList, "½".toList, "X".toList]
    let gap := "_-".toList
    let before := "__".toList
    let after := "\u0301 ".toList
    let joined := before ++ gap.intercalate words ++ after
    (∀ word ∈ words, IsToken word) ∧ IsGap gap ∧ (∀ c ∈ before, isSeparator c = true) ∧
      (∀ c ∈ after, isSeparator c = true) ∧ joined = "__Powér2_-½_-X\u0301 ".toList ∧
      tokens joined = words ∧ TokensOf joined words ∧
      "½".toList ∈ tokens joined ∧ IsToken "½".toList ∧
      (tokens joined).flatten = joined.filter (fun c => !isSeparator c) ∧
      tokens ("a.b_".toList ++ gap ++ " c".toList) =
        tokens "a.b_".toList ++ tokens " c".toList := by
  intro words gap before after joined
  have hw : ∀ word ∈ words, IsToken word := by decide +kernel
  have hg : IsGap gap := by decide +kernel
  have hb : ∀ c ∈ before, isSeparator c = true := List.all_eq_true.mp (by decide +kernel)
  have ha : ∀ c ∈ after, isSeparator c = true := List.all_eq_true.mp (by decide +kernel)
  obtain ⟨-, hsplit, hgap, hjoin, hread⟩ := tokens_undo_joining
  obtain ⟨-, htokens, hflatten⟩ := hsplit joined
  have hwords : tokens joined = words := hjoin words gap before after hw hg hb ha
  have hmem : "½".toList ∈ tokens joined := by
    rw [hwords]
    exact List.mem_cons_of_mem _ List.mem_cons_self
  exact ⟨hw, hg, hb, ha, by decide +kernel, hwords, (hread joined words).mp hwords, hmem,
    htokens _ hmem, hflatten, hgap _ gap _ hg⟩

example : tokens "__power__adapter_".toList = ["power".toList, "adapter".toList] ∧
    piecesBetweenGaps "__power__adapter_".toList =
      ["".toList, "power".toList, "adapter".toList, "".toList] := by decide +kernel

end HeaderEnum.Naming
