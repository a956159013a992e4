import HeaderEnum.Proofs.Naming.KeptLetters

/-!
# Camel case

Each camel style has a normal form: letters and digits only, with no capital at the front in lower
camel case and no small letter there in upper camel case. Spelling an ASCII name gives a name in
normal form, which stays as it is, so spelling a name twice is spelling it once.

A name with separators is put together from its tokens; one without is taken for camel case
already. The two ways agree: from what one camel style makes of tokens, the other style makes what
it makes of the tokens. Only a first token of one character is in the way, since its capital may be
read together with those that follow.
-/

namespace HeaderEnum.Naming

/-- The letters that no spelling in a style has at the front. -/
def CaseStyle.shuns : CaseStyle → Char → Bool
  | .keep, _ => false
  | .lowerCamel, c => c.isUpper
  | .upperCamel, c => c.isLower

/-- A name as a style leaves it: letters and digits only, the first one of the right case. Every
name is one to keep. -/
structure CaseStyle.IsNormal (style : CaseStyle) (name : List Char) : Prop where
  /-- A camel-cased name holds ASCII letters and digits only. -/
  isAlphanum : style ≠ .keep → ∀ c ∈ name, c.isAlphanum = true
  /-- It does not start with a letter of the wrong case. -/
  first : ∀ c ∈ name.head?, style.shuns c = false

/-! ## Names without separators -/

/-- Letters and digits are no separators. -/
theorem not_any_isSeparator {name : List Char} (h : ∀ c ∈ name, c.isAlphanum = true) :
    ¬name.any isSeparator = true := by
  intro ha
  obtain ⟨c, hc, hs⟩ := List.any_eq_true.mp ha
  rw [isSeparator, Letter.isAlphanumeric_of_isAlphanum (h c hc)] at hs
  exact Bool.false_ne_true hs

/-- A name of letters and digits is taken for camel case by the lower camel style. -/
theorem spell_lowerCamel_of_isAlphanum {name : List Char} (h : ∀ c ∈ name, c.isAlphanum = true) :
    CaseStyle.lowerCamel.spell name = lowerCamelOfCamel name := if_neg (not_any_isSeparator h)

/-- A name of letters and digits is taken for camel case by the upper camel style. -/
theorem spell_upperCamel_of_isAlphanum {name : List Char} (h : ∀ c ∈ name, c.isAlphanum = true) :
    CaseStyle.upperCamel.spell name = upperFirst name := if_neg (not_any_isSeparator h)

/-! ## The first letter -/

/-- A text with a small first part does not start with a capital. -/
theorem not_isUpper_of_mem_head?_lower {first : List Char} (hne : first ≠ [])
    (h : ∀ c ∈ first, Letter.isAscii c = true) (rest : List Char) {c : Char}
    (hc : c ∈ (Letter.lower first ++ rest).head?) : c.isUpper = false := by
  obtain ⟨d, more, rfl⟩ := List.exists_cons_of_ne_nil hne
  rw [Letter.lower_of_ascii h, List.map_cons, List.cons_append, List.head?_cons] at hc
  rw [← Option.some.inj hc, Char.isUpper_toLower_eq_false]

/-- A text after the capital form of a character does not start with a small letter. -/
theorem not_isLower_of_mem_head?_upperChar {d : Char} (h : Letter.isAscii d = true)
    (rest : List Char) {c : Char} (hc : c ∈ (Letter.upperChar d ++ rest).head?) :
    c.isLower = false := by
  rw [Letter.upperChar_of_isAscii h, List.singleton_append, List.head?_cons] at hc
  rw [← Option.some.inj hc, Char.isLower_toUpper_eq_false]

/-- A small token with capitalized ones after it does not start with a capital. -/
theorem not_isUpper_of_mem_head?_lowerCamelOfTokens {words : List (List Char)}
    (hne : ∀ word ∈ words, word ≠ []) (h : ∀ word ∈ words, ∀ c ∈ word, Letter.isAscii c = true)
    {c : Char} (hc : c ∈ (lowerCamelOfTokens words).head?) : c.isUpper = false := by
  cases words with
  | nil => simp [lowerCamelOfTokens] at hc
  | cons first others =>
    exact not_isUpper_of_mem_head?_lower (hne first List.mem_cons_self)
      (h first List.mem_cons_self) _ hc

/-- A camel-cased name with its leading word in small letters does not start with a capital. -/
theorem not_isUpper_of_mem_head?_lowerCamelOfCamel {name : List Char}
    (h : ∀ c ∈ name, Letter.isAscii c = true) {c : Char}
    (hc : c ∈ (lowerCamelOfCamel name).head?) : c.isUpper = false := by
  rcases lowerCamelOfCamel_cases name with ⟨he, hfirst⟩ | ⟨first, rest, hne, hname, he⟩
  · rw [he] at hc
    rw [← Letter.isUpper_of_isAscii (h c (List.mem_of_mem_head? hc)), hfirst c hc]
  · rw [he] at hc
    refine not_isUpper_of_mem_head?_lower hne (fun d hd => h d ?_) rest hc
    rw [hname]
    exact List.mem_append_left rest hd

/-- Capitalized tokens do not start with a small letter. -/
theorem not_isLower_of_mem_head?_upperCamelOfTokens {words : List (List Char)}
    (hne : ∀ word ∈ words, word ≠ []) (h : ∀ word ∈ words, ∀ c ∈ word, Letter.isAscii c = true)
    {c : Char} (hc : c ∈ (upperCamelOfTokens words).head?) : c.isLower = false := by
  cases words with
  | nil => simp [upperCamelOfTokens] at hc
  | cons first others =>
    obtain ⟨d, rest, rfl⟩ := List.exists_cons_of_ne_nil (hne first List.mem_cons_self)
    rw [upperCamelOfTokens, List.flatMap_cons, Letter.capitalized, List.append_assoc] at hc
    exact not_isLower_of_mem_head?_upperChar (h _ List.mem_cons_self d List.mem_cons_self) _ hc

/-- A name with a capital first character does not start with a small letter. -/
theorem not_isLower_of_mem_head?_upperFirst {name : List Char}
    (h : ∀ c ∈ name, Letter.isAscii c = true) {c : Char} (hc : c ∈ (upperFirst name).head?) :
    c.isLower = false := by
  cases name with
  | nil => simp [upperFirst] at hc
  | cons d rest => exact not_isLower_of_mem_head?_upperChar (h d List.mem_cons_self) rest hc

/-! ## Normal forms -/

/-- Spelling an ASCII name gives a name in normal form. -/
theorem isNormal_spell (style : CaseStyle) {name : List Char}
    (h : ∀ c ∈ name, Letter.isAscii c = true) : style.IsNormal (style.spell name) := by
  have hne : ∀ word ∈ tokens name, word ≠ [] := fun _ hw => ne_nil_of_mem_tokens hw
  have htokens := isAscii_of_mem_tokens h
  refine ⟨fun hs c hc => isAlphanum_of_mem_spell hs h hc, fun c hc => ?_⟩
  cases style with
  | keep => rfl
  | lowerCamel =>
    rw [CaseStyle.spell] at hc
    split at hc
    · exact not_isUpper_of_mem_head?_lowerCamelOfTokens hne htokens hc
    · exact not_isUpper_of_mem_head?_lowerCamelOfCamel h hc
  | upperCamel =>
    rw [CaseStyle.spell] at hc
    split at hc
    · exact not_isLower_of_mem_head?_upperCamelOfTokens hne htokens hc
    · exact not_isLower_of_mem_head?_upperFirst h hc

/-- A camel-cased name that starts with no capital stays as it is. -/
theorem lowerCamelOfCamel_of_head? {name : List Char}
    (h : ∀ c ∈ name.head?, Letter.isUpper c = false) : lowerCamelOfCamel name = name := by
  cases name with
  | nil => rfl
  | cons c rest =>
    have hc : ¬Letter.isUpper c = true := ne_true_of_eq_false (h c rfl)
    rw [lowerCamelOfCamel, List.takeWhile_cons_of_neg hc]

/-- A name in normal form stays as it is. -/
theorem spell_of_isNormal {style : CaseStyle} {name : List Char} (h : style.IsNormal name) :
    style.spell name = name := by
  cases style with
  | keep => rfl
  | lowerCamel =>
    have ha := h.isAlphanum (by decide)
    rw [spell_lowerCamel_of_isAlphanum ha]
    refine lowerCamelOfCamel_of_head? fun c hc => ?_
    have halpha : c.isAlphanum = true := ha c (List.mem_of_mem_head? hc)
    rw [Letter.isUpper_of_isAscii (Letter.isAscii_of_isAlphanum halpha)]
    exact h.first c hc
  | upperCamel =>
    have ha := h.isAlphanum (by decide)
    rw [spell_upperCamel_of_isAlphanum ha]
    cases name with
    | nil => rfl
    | cons c rest =>
      have halpha : c.isAlphanum = true := ha c List.mem_cons_self
      have hlower : ¬c.isLower = true := ne_true_of_eq_false (h.first c rfl)
      rw [upperFirst, Letter.upperChar_of_isAscii (Letter.isAscii_of_isAlphanum halpha),
        Char.toUpper_eq_of_not_isLower hlower, List.singleton_append]

/-- A camel-cased spelling is empty just when the name has no letter or digit. -/
theorem spell_eq_nil_iff {style : CaseStyle} (hs : style ≠ .keep) {name : List Char}
    (h : ∀ c ∈ name, Letter.isAscii c = true) :
    style.spell name = [] ↔ ∀ c ∈ name, c.isAlphanum = false := by
  have hempty : style.spell name = [] ↔ lettersAndDigits name = [] := by
    rw [← caseless_eq_nil_iff, caseless_spell hs h, caseless_eq_nil_iff]
  rw [hempty, lettersAndDigits, List.filter_eq_nil_iff]
  refine forall₂_congr fun c hc => ?_
  rw [Letter.isAlphanumeric_of_isAscii (h c hc), Bool.not_eq_true]

/-- Spelling an ASCII text twice in a style is spelling it once. In a camel style the result holds
letters and digits only and is empty just when the text has none; it never starts with a capital in
lower camel case, nor with a small letter in upper camel case. -/
theorem apply_normalizes (style : CaseStyle) {text : String}
    (h : ∀ c ∈ text.toList, Letter.isAscii c = true) :
    style.apply (style.apply text) = style.apply text ∧
    (style ≠ .keep →
      (∀ c ∈ (style.apply text).toList, c.isAlphanum = true) ∧
        (style.apply text = "" ↔ ∀ c ∈ text.toList, c.isAlphanum = false)) ∧
    (∀ c ∈ (CaseStyle.lowerCamel.apply text).toList.head?, c.isUpper = false) ∧
    ∀ c ∈ (CaseStyle.upperCamel.apply text).toList.head?, c.isLower = false := by
  have hnormal : ∀ other : CaseStyle, other.IsNormal (other.apply text).toList := by
    intro other
    rw [CaseStyle.apply, String.toList_ofList]
    exact isNormal_spell other h
  refine ⟨?_, fun hs => ⟨(hnormal style).isAlphanum hs, ?_⟩, (hnormal .lowerCamel).first,
    (hnormal .upperCamel).first⟩
  · rw [CaseStyle.apply, spell_of_isNormal (hnormal style), String.ofList_toList]
  · rw [← spell_eq_nil_iff hs h, CaseStyle.apply, String.ofList_eq_empty_iff]

/-- A text with an acronym, a digit at the front of a token and a token of one character. -/
theorem apply_normalizes_acronym :
    let style := CaseStyle.lowerCamel
    let text := "HTTP_server-2x_Y"
    (∀ c ∈ text.toList, Letter.isAscii c = true) ∧ style ≠ .keep ∧
      style.apply text = "httpServer2xY" ∧ style.apply (style.apply text) = style.apply text ∧
      (∀ c ∈ (style.apply text).toList, c.isAlphanum = true) ∧
      (style.apply text = "" ↔ ∀ c ∈ text.toList, c.isAlphanum = false) ∧
      (∀ c ∈ (CaseStyle.lowerCamel.apply text).toList.head?, c.isUpper = false) ∧
      ∀ c ∈ (CaseStyle.upperCamel.apply text).toList.head?, c.isLower = false := by
  intro style text
  have hascii : ∀ c ∈ text.toList, Letter.isAscii c = true :=
    List.all_eq_true.mp (by decide +kernel)
  have hs : style ≠ .keep := by decide
  obtain ⟨htwice, hcamel, hlower, hupper⟩ := apply_normalizes style hascii
  exact ⟨hascii, hs, by decide +kernel, htwice, (hcamel hs).1, (hcamel hs).2, hlower, hupper⟩

/-! ## From one camel style to the other -/

/-- A capital at the front of what the lower camel style makes of tokens gives what the upper camel
style makes of them. -/
theorem upperFirst_lowerCamelOfTokens {words : List (List Char)}
    (hne : ∀ word ∈ words, word ≠ []) (h : ∀ word ∈ words, ∀ c ∈ word, Letter.isAscii c = true) :
    upperFirst (lowerCamelOfTokens words) = upperCamelOfTokens words := by
  cases words with
  | nil => rfl
  | cons first others =>
    obtain ⟨c, rest, rfl⟩ := List.exists_cons_of_ne_nil (hne first List.mem_cons_self)
    have hfirst : ∀ d ∈ c :: rest, Letter.isAscii d = true := h _ List.mem_cons_self
    have hc : Letter.isAscii c.toLower = true :=
      Letter.isAscii_toLower (hfirst c List.mem_cons_self)
    rw [lowerCamelOfTokens, Letter.lower_of_ascii hfirst, List.map_cons, List.cons_append,
      upperFirst, Letter.upperChar_of_isAscii hc, Char.toUpper_toLower_eq_toUpper,
      upperCamelOfTokens, upperCamelOfTokens, List.flatMap_cons,
      Letter.capitalized_of_ascii hfirst, List.singleton_append, List.cons_append]

/-- A first character with no capital behind it is the leading word alone. -/
theorem lowerCamelOfCamel_cons_cons {c d : Char} (hc : Letter.isAscii c = true)
    (hd : Letter.isUpper d = false) (rest : List Char) :
    lowerCamelOfCamel (c :: d :: rest) = c.toLower :: d :: rest := by
  have hnot : ¬Letter.isUpper d = true := ne_true_of_eq_false hd
  cases hu : Letter.isUpper c with
  | false =>
    have hhead : ∀ e ∈ (c :: d :: rest).head?, Letter.isUpper e = false := by
      intro e he
      rw [← Option.some.inj he, hu]
    rw [Letter.isUpper_of_isAscii hc] at hu
    rw [lowerCamelOfCamel_of_head? hhead,
      Char.toLower_eq_of_not_isUpper (ne_true_of_eq_false hu)]
  | true =>
    have hone : Letter.lower [c] = [c.toLower] :=
      Letter.lower_of_ascii fun e he => List.mem_singleton.mp he ▸ hc
    rw [lowerCamelOfCamel, List.takeWhile_cons_of_pos hu, List.takeWhile_cons_of_neg hnot,
      List.dropWhile_cons_of_pos hu, List.dropWhile_cons_of_neg hnot]
    exact congrArg (· ++ d :: rest) hone

/-- The leading word of capitalized tokens is the first token, if it has two characters. -/
theorem lowerCamelOfCamel_upperCamelOfTokens {words : List (List Char)}
    (h : ∀ word ∈ words, ∀ c ∈ word, Letter.isAscii c = true)
    (hfirst : ∀ first ∈ words.head?, 2 ≤ first.length) :
    lowerCamelOfCamel (upperCamelOfTokens words) = lowerCamelOfTokens words := by
  match words with
  | [] => rfl
  | [] :: _ => exact absurd (hfirst [] rfl) (by decide)
  | [c] :: _ => exact absurd (hfirst [c] rfl) (Nat.not_succ_le_self 1)
  | (c :: d :: rest) :: others =>
    have htoken : ∀ e ∈ c :: d :: rest, Letter.isAscii e = true := h _ List.mem_cons_self
    have hc : Letter.isAscii c = true := htoken c List.mem_cons_self
    have hd : Letter.isAscii d = true := htoken d (List.mem_cons_of_mem _ List.mem_cons_self)
    have hsmall : Letter.isUpper d.toLower = false := by
      rw [Letter.isUpper_of_isAscii (Letter.isAscii_toLower hd), Char.isUpper_toLower_eq_false]
    rw [upperCamelOfTokens, List.flatMap_cons, Letter.capitalized_of_ascii htoken, List.map_cons,
      List.cons_append, List.cons_append,
      lowerCamelOfCamel_cons_cons (Letter.isAscii_toUpper hc) hsmall,
      Char.toLower_toUpper_eq_toLower, lowerCamelOfTokens, Letter.lower_of_ascii htoken]
    rfl

/-- On a text with separators the two camel styles agree. The upper camel style makes the same of
the text and of its lower camel form; the lower camel style makes the same of the text and of its
upper camel form, if the first token, where there is one, has at least two characters. -/
theorem camel_styles_agree {text : String} (h : ∀ c ∈ text.toList, Letter.isAscii c = true)
    (hs : ∃ c ∈ text.toList, isSeparator c = true) :
    CaseStyle.upperCamel.apply (CaseStyle.lowerCamel.apply text) =
        CaseStyle.upperCamel.apply text ∧
      ((∀ first ∈ (tokens text.toList).head?, 2 ≤ first.length) →
        CaseStyle.lowerCamel.apply (CaseStyle.upperCamel.apply text) =
          CaseStyle.lowerCamel.apply text) := by
  have hany : text.toList.any isSeparator = true := List.any_eq_true.mpr hs
  have hlower : CaseStyle.lowerCamel.spell text.toList = lowerCamelOfTokens (tokens text.toList) :=
    if_pos hany
  have hupper : CaseStyle.upperCamel.spell text.toList = upperCamelOfTokens (tokens text.toList) :=
    if_pos hany
  have hne : ∀ word ∈ tokens text.toList, word ≠ [] := fun _ hw => ne_nil_of_mem_tokens hw
  have htokens := isAscii_of_mem_tokens h
  simp only [CaseStyle.apply, String.toList_ofList]
  constructor
  · have halpha := (isNormal_spell .lowerCamel h).isAlphanum (by decide)
    rw [spell_upperCamel_of_isAlphanum halpha, hlower, hupper,
      upperFirst_lowerCamelOfTokens hne htokens]
  · intro hfirst
    have halpha := (isNormal_spell .upperCamel h).isAlphanum (by decide)
    rw [spell_lowerCamel_of_isAlphanum halpha, hlower, hupper,
      lowerCamelOfCamel_upperCamelOfTokens htokens hfirst]

/-- Three words written with separators and in camel case. -/
theorem camel_styles_agree_threeWords :
    let text := "POWER_ADAPTER_ID"
    (∀ c ∈ text.toList, Letter.isAscii c = true) ∧
      (∃ c ∈ text.toList, isSeparator c = true) ∧
      (∀ first ∈ (tokens text.toList).head?, 2 ≤ first.length) ∧
      CaseStyle.upperCamel.apply text = "PowerAdapterId" ∧
      CaseStyle.upperCamel.apply (CaseStyle.lowerCamel.apply text) =
        CaseStyle.upperCamel.apply text ∧
      CaseStyle.lowerCamel.apply (CaseStyle.upperCamel.apply text) =
        CaseStyle.lowerCamel.apply text := by
  intro text
  have hascii : ∀ c ∈ text.toList, Letter.isAscii c = true :=
    List.all_eq_true.mp (by decide +kernel)
  have hs : ∃ c ∈ text.toList, isSeparator c = true := List.any_eq_true.mp (by decide +kernel)
  have hfirst : ∀ first ∈ (tokens text.toList).head?, 2 ≤ first.length := by
    intro first hm
    have hpower : (tokens text.toList).head? = some "POWER".toList := by decide +kernel
    rw [← Option.some.inj (hpower.symm.trans hm)]
    decide
  obtain ⟨hupper, hlower⟩ := camel_styles_agree hascii hs
  exact ⟨hascii, hs, hfirst, by decide +kernel, hupper, hlower hfirst⟩

-- A first token of one character is read together with the next one.
example : CaseStyle.lowerCamel.apply "a_b_cd" = "aBCd" ∧
    CaseStyle.lowerCamel.apply (CaseStyle.upperCamel.apply "a_b_cd") = "abCd" := by decide +kernel

end HeaderEnum.Naming
