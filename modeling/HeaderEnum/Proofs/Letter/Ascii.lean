import HeaderEnum.Letter.Case

/-!
# ASCII characters

Over ASCII every character class is decided without a table and every case mapping is one character
long. A decidable property of all ASCII characters is settled by going through them, and mappings of
whole ASCII texts are mappings of their characters.
-/

namespace HeaderEnum.Letter

/-- A decidable property holds of every ASCII character if it holds of the first 128 code points. -/
theorem ascii_forall {p : Char → Prop} [DecidablePred p] (h : ∀ n : Fin 128, p (Char.ofNat n))
    {c : Char} (hc : isAscii c = true) : p c := by
  have hlt : c.toNat < 128 := by simpa [isAscii] using hc
  have hp := h ⟨c.toNat, hlt⟩
  rwa [Char.ofNat_toNat] at hp

/-- ASCII word characters are ASCII. -/
theorem isAscii_of_isAsciiWord {c : Char} (h : isAsciiWord c = true) : isAscii c = true := by
  have ha : c.isAlphanum = ((c.isUpper || c.isLower) || c.isDigit) := rfl
  have hu : c.isUpper = decide (c.val ≥ 65 ∧ c.val ≤ 90) := rfl
  have hl : c.isLower = (decide (c.val ≥ 97) && decide (c.val ≤ 122)) := rfl
  have hd : c.isDigit = (decide (c.val ≥ 48) && decide (c.val ≤ 57)) := rfl
  rw [isAsciiWord, ha, hu, hl, hd] at h
  simp only [Bool.or_eq_true, beq_iff_eq, Bool.and_eq_true, decide_eq_true_eq, ge_iff_le,
    UInt32.le_iff_toNat_le, Char.toNat_val] at h
  simp only [isAscii, decide_eq_true_eq]
  rcases h with rfl | ((h | h) | h)
  · decide
  · exact Nat.lt_of_le_of_lt h.2 (by decide)
  · exact Nat.lt_of_le_of_lt h.2 (by decide)
  · exact Nat.lt_of_le_of_lt h.2 (by decide)

/-- ASCII letters and digits are ASCII. -/
theorem isAscii_of_isAlphanum {c : Char} (h : c.isAlphanum = true) : isAscii c = true :=
  isAscii_of_isAsciiWord (by rw [isAsciiWord, h, Bool.or_true])

/-- Over ASCII, word characters are letters, digits and the underscore. -/
theorem isWord_of_isAscii {c : Char} (h : isAscii c = true) : isWord c = isAsciiWord c := by
  simp [isWord, isAlphanumeric, isAsciiWord, h]

/-- ASCII word characters are word characters. -/
theorem isWord_of_isAsciiWord {c : Char} (h : isAsciiWord c = true) : isWord c = true := by
  rw [isWord_of_isAscii (isAscii_of_isAsciiWord h), h]

/-- Over ASCII, letters and numerals are the ASCII letters and digits. -/
theorem isAlphanumeric_of_isAscii {c : Char} (h : isAscii c = true) :
    isAlphanumeric c = c.isAlphanum := if_pos h

/-- ASCII letters and digits are letters and numerals. -/
theorem isAlphanumeric_of_isAlphanum {c : Char} (h : c.isAlphanum = true) :
    isAlphanumeric c = true := by rw [isAlphanumeric_of_isAscii (isAscii_of_isAlphanum h), h]

/-- Over ASCII, capitals are the ASCII capitals. -/
theorem isUpper_of_isAscii {c : Char} (h : isAscii c = true) : isUpper c = c.isUpper := if_pos h

/-- Over ASCII, digits are the decimal ones. -/
theorem isDigit_of_isAscii {c : Char} (h : isAscii c = true) : isDigit c = c.isDigit := by
  simp [isDigit, h]

/-- Small letters of ASCII word characters are ASCII word characters. -/
theorem isAsciiWord_toLower {c : Char} (h : isAsciiWord c = true) : isAsciiWord c.toLower = true :=
  ascii_forall (p := fun c => isAsciiWord c = true → isAsciiWord c.toLower = true) (by decide)
    (isAscii_of_isAsciiWord h) h

/-- Capitals of ASCII word characters are ASCII word characters. -/
theorem isAsciiWord_toUpper {c : Char} (h : isAsciiWord c = true) : isAsciiWord c.toUpper = true :=
  ascii_forall (p := fun c => isAsciiWord c = true → isAsciiWord c.toUpper = true) (by decide)
    (isAscii_of_isAsciiWord h) h

/-- Small letters of ASCII characters are ASCII. -/
theorem isAscii_toLower {c : Char} (h : isAscii c = true) : isAscii c.toLower = true :=
  ascii_forall (p := fun c => isAscii c.toLower = true) (by decide) h

/-- Capitals of ASCII characters are ASCII. -/
theorem isAscii_toUpper {c : Char} (h : isAscii c = true) : isAscii c.toUpper = true :=
  ascii_forall (p := fun c => isAscii c.toUpper = true) (by decide) h

/-- The capital form of an ASCII character is one character. -/
theorem upperChar_of_isAscii {c : Char} (h : isAscii c = true) : upperChar c = [c.toUpper] := by
  simp [upperChar, h]

/-- The small form of an ASCII character is one character, whatever stands around it. -/
theorem lowerBetween_of_isAscii {c : Char} (h : isAscii c = true) (before after : List Char) :
    lowerBetween before c after = [c.toLower] := by
  have hn : c.toNat < 128 := by simpa [isAscii] using h
  have hs : c ≠ 'Σ' := by
    rintro rfl
    exact absurd hn (by decide)
  have hi : c.toNat ≠ 0x130 := by omega
  simp [lowerBetween, hs, lowerChar, hi, lowerSimple, h]

/-- Lowering an ASCII text after any text lowers its characters. -/
theorem lowerAfter_of_ascii {text : List Char} (h : ∀ c ∈ text, isAscii c = true)
    (before : List Char) : lowerAfter before text = text.map Char.toLower := by
  induction text generalizing before with
  | nil => rfl
  | cons c rest ih =>
    rw [lowerAfter, lowerBetween_of_isAscii (h c List.mem_cons_self),
      ih fun d hd => h d (List.mem_cons_of_mem _ hd)]
    rfl

/-- Lowering an ASCII text lowers its characters. -/
theorem lower_of_ascii {text : List Char} (h : ∀ c ∈ text, isAscii c = true) :
    lower text = text.map Char.toLower := lowerAfter_of_ascii h []

/-- Capitalizing an ASCII text changes its characters one by one. -/
theorem capitalized_of_ascii {c : Char} {rest : List Char}
    (h : ∀ d ∈ c :: rest, isAscii d = true) :
    capitalized (c :: rest) = c.toUpper :: rest.map Char.toLower := by
  rw [capitalized, upperChar_of_isAscii (h c List.mem_cons_self),
    lower_of_ascii fun d hd => h d (List.mem_cons_of_mem _ hd), List.singleton_append]

/-- A text of ASCII letters, digits and underscores. -/
def IsAsciiWordText (text : List Char) : Prop := ∀ c ∈ text, isAsciiWord c = true

namespace IsAsciiWordText

/-- All characters of such a text are ASCII. -/
theorem isAscii {text : List Char} (h : IsAsciiWordText text) :
    ∀ c ∈ text, Letter.isAscii c = true := fun c hc => isAscii_of_isAsciiWord (h c hc)

/-- A part of such a text is one. -/
theorem of_subset {text part : List Char} (h : IsAsciiWordText text) (hs : part ⊆ text) :
    IsAsciiWordText part := fun c hc => h c (hs hc)

/-- Two such texts make one. -/
theorem append {first second : List Char} (hf : IsAsciiWordText first)
    (hs : IsAsciiWordText second) : IsAsciiWordText (first ++ second) := by
  intro c hc
  rcases List.mem_append.mp hc with hc | hc
  · exact hf c hc
  · exact hs c hc

/-- The small form of such a text is one. -/
theorem lower {text : List Char} (h : IsAsciiWordText text) : IsAsciiWordText (lower text) := by
  rw [lower_of_ascii h.isAscii]
  intro c hc
  obtain ⟨d, hd, rfl⟩ := List.mem_map.mp hc
  exact isAsciiWord_toLower (h d hd)

/-- The capital form of one of its characters is such a text. -/
theorem upperChar {text : List Char} (h : IsAsciiWordText text) {c : Char} (hc : c ∈ text) :
    IsAsciiWordText (upperChar c) := by
  rw [upperChar_of_isAscii (h.isAscii c hc)]
  intro d hd
  rw [List.mem_singleton.mp hd]
  exact isAsciiWord_toUpper (h c hc)

/-- Such a text with a capital first character and small ones after it is one. -/
theorem capitalized {text : List Char} (h : IsAsciiWordText text) :
    IsAsciiWordText (capitalized text) := by
  cases text with
  | nil => exact h
  | cons c rest =>
    exact (h.upperChar List.mem_cons_self).append (h.of_subset (List.subset_cons_self c rest)).lower

end IsAsciiWordText

end HeaderEnum.Letter
