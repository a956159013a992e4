import HeaderEnum.Proofs.Naming.AsciiNames
import HeaderEnum.Proofs.Naming.IdentifierForm
import HeaderEnum.Proofs.Naming.Survivors
import Mathlib

/-!
# Letters and digits of a name

Spelling a name changes the case of its letters and leaves separators out, and making an identifier
only adds and removes underscores. The letters and digits of an ASCII name therefore come through
naming in order, none lost and none new, and two constants can have one identifier only if their
stripped names are alike apart from case and underscores. Letters beyond ASCII are not covered: the
capital form of one of them may be several letters.
-/

namespace HeaderEnum.Naming

/-- The letters and digits of a text, in order. -/
def lettersAndDigits (text : List Char) : List Char := text.filter Letter.isAlphanumeric

/-- A text without regard to the case of its ASCII letters. -/
def caseless (text : List Char) : List Char := text.map Char.toLower

/-- A text without underscores and without regard to the case of its ASCII letters. -/
def skeleton (text : String) : List Char := caseless (text.toList.filter (· != '_'))

/-- Two texts one after the other are caseless one after the other. -/
@[simp] theorem caseless_append (first second : List Char) :
    caseless (first ++ second) = caseless first ++ caseless second := List.map_append

/-- Only the empty text has no characters without regard to case. -/
theorem caseless_eq_nil_iff {text : List Char} : caseless text = [] ↔ text = [] :=
  List.map_eq_nil_iff

/-- The letters and digits of two texts stand one after the other. -/
@[simp] theorem lettersAndDigits_append (first second : List Char) :
    lettersAndDigits (first ++ second) = lettersAndDigits first ++ lettersAndDigits second :=
  List.filter_append ..

/-- Letters and digits alone are kept as they are. -/
theorem lettersAndDigits_of_forall {text : List Char}
    (h : ∀ c ∈ text, Letter.isAlphanumeric c = true) : lettersAndDigits text = text :=
  List.filter_eq_self.mpr h

/-- Whether a character is an ASCII letter or digit does not depend on its case. -/
theorem isAlphanum_toLower (c : Char) : c.toLower.isAlphanum = c.isAlphanum := by
  by_cases h : c.isUpper = true
  · have ha : c.isAlpha = true := by rw [Char.isAlpha, h, Bool.true_or]
    rw [Char.isAlphanum, Char.isAlphanum, Char.isAlpha_toLower_eq_isAlpha, ha, Bool.true_or,
      Bool.true_or]
  · rw [Char.toLower_eq_of_not_isUpper h]

/-! ## Spelling -/

/-- Small letters are the same letters. -/
theorem caseless_lower {text : List Char} (h : ∀ c ∈ text, Letter.isAscii c = true) :
    caseless (Letter.lower text) = caseless text := by
  rw [Letter.lower_of_ascii h, caseless, caseless, List.map_map]
  exact List.map_congr_left fun c _ => Char.toLower_toLower_eq_toLower c

/-- A capital letter is the same letter. -/
theorem caseless_upperChar {c : Char} (h : Letter.isAscii c = true) :
    caseless (Letter.upperChar c) = [c.toLower] := by
  rw [Letter.upperChar_of_isAscii h]
  exact congrArg (· :: []) (Char.toLower_toUpper_eq_toLower c)

/-- A capitalized text has the same letters. -/
theorem caseless_capitalized {text : List Char} (h : ∀ c ∈ text, Letter.isAscii c = true) :
    caseless (Letter.capitalized text) = caseless text := by
  cases text with
  | nil => rfl
  | cons c rest =>
    rw [Letter.capitalized, caseless_append, caseless_upperChar (h c List.mem_cons_self),
      caseless_lower fun d hd => h d (List.mem_cons_of_mem _ hd)]
    rfl

/-- Capitalized tokens have the letters of the tokens. -/
theorem caseless_upperCamelOfTokens {words : List (List Char)}
    (h : ∀ word ∈ words, ∀ c ∈ word, Letter.isAscii c = true) :
    caseless (upperCamelOfTokens words) = caseless words.flatten := by
  induction words with
  | nil => rfl
  | cons word words ih =>
    rw [upperCamelOfTokens, List.flatMap_cons, List.flatten_cons, caseless_append, caseless_append,
      caseless_capitalized (h word List.mem_cons_self), ← upperCamelOfTokens,
      ih fun other hm => h other (List.mem_cons_of_mem _ hm)]

/-- A small token and capitalized ones have the letters of the tokens. -/
theorem caseless_lowerCamelOfTokens {words : List (List Char)}
    (h : ∀ word ∈ words, ∀ c ∈ word, Letter.isAscii c = true) :
    caseless (lowerCamelOfTokens words) = caseless words.flatten := by
  cases words with
  | nil => rfl
  | cons first others =>
    rw [lowerCamelOfTokens, List.flatten_cons, caseless_append, caseless_append,
      caseless_lower (h first List.mem_cons_self),
      caseless_upperCamelOfTokens fun word hm => h word (List.mem_cons_of_mem _ hm)]

/-- A camel-cased name keeps its letters. -/
theorem caseless_lowerCamelOfCamel {name : List Char} (h : ∀ c ∈ name, Letter.isAscii c = true) :
    caseless (lowerCamelOfCamel name) = caseless name := by
  rcases lowerCamelOfCamel_cases name with ⟨he, -⟩ | ⟨first, rest, -, hname, he⟩
  · rw [he]
  · have hfirst : ∀ c ∈ first, Letter.isAscii c = true :=
      fun c hc => h c (hname ▸ List.mem_append_left rest hc)
    rw [he, caseless_append, caseless_lower hfirst, ← caseless_append, ← hname]

/-- A name with its first letter as a capital keeps its letters. -/
theorem caseless_upperFirst {name : List Char} (h : ∀ c ∈ name, Letter.isAscii c = true) :
    caseless (upperFirst name) = caseless name := by
  cases name with
  | nil => rfl
  | cons c rest =>
    rw [upperFirst, caseless_append, caseless_upperChar (h c List.mem_cons_self)]
    rfl

/-- The tokens of an ASCII name are ASCII. -/
theorem isAscii_of_mem_tokens {name : List Char} (h : ∀ c ∈ name, Letter.isAscii c = true) :
    ∀ word ∈ tokens name, ∀ c ∈ word, Letter.isAscii c = true :=
  fun _ hw c hc => h c (subset_of_mem_tokens hw hc)

/-- The tokens of a name hold its letters and digits. -/
theorem flatten_tokens (name : List Char) : (tokens name).flatten = lettersAndDigits name := by
  rw [flatten_tokens_eq_filter, lettersAndDigits]
  simp only [isSeparator, Bool.not_not]

/-- A name without separators is made of letters and digits. -/
theorem lettersAndDigits_of_not_any {name : List Char} (h : ¬name.any isSeparator = true) :
    lettersAndDigits name = name := by
  refine lettersAndDigits_of_forall fun c hc => ?_
  simpa [isSeparator] using fun hs => h (List.any_eq_true.mpr ⟨c, hc, hs⟩)

/-- A camel-cased spelling of an ASCII name has the letters and digits of the name and nothing
else. -/
theorem caseless_spell {style : CaseStyle} (hs : style ≠ .keep) {name : List Char}
    (h : ∀ c ∈ name, Letter.isAscii c = true) :
    caseless (style.spell name) = caseless (lettersAndDigits name) := by
  have htokens := isAscii_of_mem_tokens h
  cases style with
  | keep => exact absurd rfl hs
  | lowerCamel =>
    rw [CaseStyle.spell]
    split
    · rw [caseless_lowerCamelOfTokens htokens, flatten_tokens]
    · rename_i hsep
      rw [caseless_lowerCamelOfCamel h, lettersAndDigits_of_not_any hsep]
  | upperCamel =>
    rw [CaseStyle.spell]
    split
    · rw [caseless_upperCamelOfTokens htokens, flatten_tokens]
    · rename_i hsep
      rw [caseless_upperFirst h, lettersAndDigits_of_not_any hsep]

/-- A camel-cased spelling of an ASCII name is made of ASCII letters and digits. -/
theorem isAlphanum_of_mem_spell {style : CaseStyle} (hs : style ≠ .keep) {name : List Char}
    (h : ∀ c ∈ name, Letter.isAscii c = true) {c : Char} (hc : c ∈ style.spell name) :
    c.isAlphanum = true := by
  have hm : c.toLower ∈ caseless (lettersAndDigits name) := by
    rw [← caseless_spell hs h]
    exact List.mem_map_of_mem hc
  obtain ⟨d, hd, he⟩ := List.mem_map.mp hm
  obtain ⟨hname, halpha⟩ := List.mem_filter.mp hd
  rw [Letter.isAlphanumeric_of_isAscii (h d hname)] at halpha
  rw [← isAlphanum_toLower, ← he, isAlphanum_toLower, halpha]

/-! ## Identifiers -/

/-- Characters that are replaced are no letters or digits. -/
theorem isAlphanumeric_of_not_isWord {c : Char} (h : ¬Letter.isWord c = true) :
    ¬Letter.isAlphanumeric c = true := fun ha => h (by rw [Letter.isWord, ha, Bool.or_true])

/-- An underscore in front adds no letter or digit. -/
theorem lettersAndDigits_underscore (rest : List Char) :
    lettersAndDigits ('_' :: rest) = lettersAndDigits rest :=
  List.filter_cons_of_neg (by decide)

/-- Replacing runs keeps letters and digits. -/
theorem lettersAndDigits_replaceRuns (running : Bool) (text : List Char) :
    lettersAndDigits (replaceRuns running text) = lettersAndDigits text := by
  fun_induction replaceRuns running text with
  | case1 => rfl
  | case2 running c rest hc ih =>
    rw [← List.singleton_append, lettersAndDigits_append, ih, ← lettersAndDigits_append,
      List.singleton_append]
  | case3 c rest hc ih =>
    rw [ih, lettersAndDigits, lettersAndDigits,
      List.filter_cons_of_neg (isAlphanumeric_of_not_isWord hc)]
  | case4 running c rest hc hr ih =>
    rw [lettersAndDigits_underscore, ih, lettersAndDigits, lettersAndDigits,
      List.filter_cons_of_neg (isAlphanumeric_of_not_isWord hc)]

/-- Trimming underscores keeps letters and digits. -/
theorem lettersAndDigits_trimUnderscores (text : List Char) :
    lettersAndDigits (trimUnderscores text) = lettersAndDigits text := by
  fun_induction trimUnderscores text with
  | case1 c rest ih => rw [ih, lettersAndDigits_underscore]
  | case2 text h => rfl

/-- Guarding the first character keeps letters and digits. -/
theorem lettersAndDigits_guardFirst (text : List Char) :
    lettersAndDigits (guardFirst text) = lettersAndDigits text := by
  cases text with
  | nil => rfl
  | cons c rest =>
    rw [guardFirst]
    split
    · exact lettersAndDigits_underscore _
    · rfl

/-- The identifier made of any text has exactly the letters and digits of the text. -/
theorem lettersAndDigits_identifierOf (text : List Char) :
    lettersAndDigits (identifierOf text) = lettersAndDigits text := by
  rw [identifierOf, lettersAndDigits_guardFirst, lettersAndDigits_trimUnderscores,
    lettersAndDigits_replaceRuns]

/-- The identifier made of a spelled ASCII text has the letters and digits of the text, apart from
their case. -/
theorem caseless_lettersAndDigits_identifierOf_spell (style : CaseStyle) {text : List Char}
    (h : ∀ c ∈ text, Letter.isAscii c = true) :
    caseless (lettersAndDigits (identifierOf (style.spell text))) =
      caseless (lettersAndDigits text) := by
  rw [lettersAndDigits_identifierOf]
  by_cases hs : style = .keep
  · rw [hs, CaseStyle.spell]
  · have hall : ∀ c ∈ style.spell text, Letter.isAlphanumeric c = true :=
      fun c hc => Letter.isAlphanumeric_of_isAlphanum (isAlphanum_of_mem_spell hs h hc)
    rw [lettersAndDigits_of_forall hall, caseless_spell hs h]

/-! ## Constants of a header -/

/-- In an ASCII word text the letters and digits are all but the underscores. -/
theorem skeleton_eq {text : String} (h : Letter.IsAsciiWordText text.toList) :
    skeleton text = caseless (lettersAndDigits text.toList) := by
  refine congrArg caseless (List.filter_congr fun c hc => ?_)
  have hw : Letter.isAsciiWord c = true := h c hc
  rw [Letter.isAlphanumeric_of_isAscii (Letter.isAscii_of_isAsciiWord hw)]
  by_cases hu : c = '_'
  · rw [hu]
    rfl
  · have ha : c.isAlphanum = true := by simpa [Letter.isAsciiWord, hu] using hw
    rw [ha, bne_iff_ne]
    exact hu

namespace Rules

/-- The name of a constant without affixes, underscores and case. -/
def skeletonOf (rules : Rules) (constant : String) : List Char :=
  skeleton (dropAffixes constant rules.prefixes rules.suffixes)

/-- Apart from underscores and case, the identifier of a constant is its stripped name. -/
theorem skeleton_identify (rules : Rules) {constant : String}
    (h : Header.IsAsciiIdentifier constant.toList) :
    skeleton (rules.identify constant) = rules.skeletonOf constant := by
  have hc : Letter.IsAsciiWordText constant.toList := h.isAsciiWord
  have hd := hc.of_subset (dropAffixes_subset constant rules.prefixes rules.suffixes)
  have hi := isAsciiWordText_identifierOf (isAsciiWordText_spell rules.style hd)
  have hlist := rules.toList_identify constant
  rw [skeletonOf, skeleton_eq hd, skeleton_eq (hlist ▸ hi), hlist,
    caseless_lettersAndDigits_identifierOf_spell rules.style hd.isAscii]

/-- Constants of a header with one identifier have stripped names that are alike apart from
underscores and case. -/
theorem skeletonOf_eq_of_identify_eq {rules : Rules} {header first second : String}
    (hf : first ∈ (Header.scan header).constants) (hs : second ∈ (Header.scan header).constants)
    (he : rules.identify first = rules.identify second) :
    rules.skeletonOf first = rules.skeletonOf second := by
  rw [← rules.skeleton_identify (Header.isAsciiIdentifier_of_mem_constants hf), he,
    rules.skeleton_identify (Header.isAsciiIdentifier_of_mem_constants hs)]

/-- Letters and digits are never lost, invented or reordered. Spelling an ASCII text in any style
and making it an identifier keeps them apart from their case, and keeping a text as it is keeps
their case too. So each entry of a header shows an identifier, quoted where it has to be, that is
the stripped name of its constant apart from underscores and case, and two constants, those of a
reported collision among them, have one identifier only if their stripped names agree so. -/
theorem naming_keeps_letters (rules : Rules) (words : ReservedWords) (header : String) :
    (∀ (style : CaseStyle) (text : String), (∀ c ∈ text.toList, Letter.isAscii c = true) →
      caseless (lettersAndDigits (sanitize (style.apply text)).toList) =
        caseless (lettersAndDigits text.toList)) ∧
    (∀ text : String,
      lettersAndDigits (sanitize (CaseStyle.keep.apply text)).toList =
        lettersAndDigits text.toList) ∧
    (∀ found, rules.entriesOf words header = .ok found → ∀ entry ∈ found.entries,
      entry.identifier = words.escape (rules.identify entry.constant) ∧
        skeleton (rules.identify entry.constant) = rules.skeletonOf entry.constant) ∧
    (∀ first ∈ (Header.scan header).constants, ∀ second ∈ (Header.scan header).constants,
      rules.identify first = rules.identify second →
        rules.skeletonOf first = rules.skeletonOf second) ∧
    ∀ clash, rules.entriesOf words header = .error clash →
      rules.skeletonOf clash.collision.owner = rules.skeletonOf clash.collision.constant := by
  refine ⟨fun style text h => ?_, fun text => ?_, fun found hfound entry hm => ?_,
    fun first hf second hs => skeletonOf_eq_of_identify_eq hf hs, fun clash hclash => ?_⟩
  · simp only [sanitize, CaseStyle.apply, String.toList_ofList]
    exact caseless_lettersAndDigits_identifierOf_spell style h
  · simp only [sanitize, CaseStyle.apply, CaseStyle.spell, String.toList_ofList]
    exact lettersAndDigits_identifierOf text.toList
  · obtain ⟨-, rfl⟩ := entriesOf_eq_ok hfound
    obtain ⟨constant, hsurvivor, rfl⟩ := List.mem_map.mp hm
    have hconstant : constant ∈ (Header.scan header).constants := (List.mem_filter.mp hsurvivor).1
    exact ⟨rfl, rules.skeleton_identify (Header.isAsciiIdentifier_of_mem_constants hconstant)⟩
  · obtain ⟨before, late, owner, hc, rfl⟩ := entriesOf_eq_error hclash
    obtain ⟨howner, hlate⟩ := hc.mem_survivors
    exact skeletonOf_eq_of_identify_eq (List.mem_filter.mp howner).1 (List.mem_filter.mp hlate).1
      hc.same

/-- A name with an acronym and other characters, a header with affixes and a quoted word, and two
constants that collide. -/
theorem naming_keeps_letters_acronym :
    let rules : Rules := { prefixes := ["kIOPS"], suffixes := ["Key"] }
    let words := ReservedWords.between ["type2"] "\x60" "\x60"
    let text := "HTTP-server__2x"
    let header := "#define kIOPSAdapterIDKey 1\n#define kIOPS_TYPE_2Key 2"
    let clashing := "#define kIOPSaB 1\n#define kIOPSA_b 2"
    (∀ c ∈ text.toList, Letter.isAscii c = true) ∧
      sanitize (CaseStyle.lowerCamel.apply text) = "httpServer2x" ∧
      caseless (lettersAndDigits (sanitize (CaseStyle.lowerCamel.apply text)).toList) =
        caseless (lettersAndDigits text.toList) ∧
      (∃ found, rules.entriesOf words header = .ok found ∧
        ∃ entry ∈ found.entries, entry.identifier = "\x60type2\x60" ∧
          entry.identifier = words.escape (rules.identify entry.constant) ∧
          skeleton (rules.identify entry.constant) = rules.skeletonOf entry.constant) ∧
      (∃ first ∈ (Header.scan clashing).constants, ∃ second ∈ (Header.scan clashing).constants,
        first ≠ second ∧ rules.identify first = rules.identify second ∧
          rules.skeletonOf first = rules.skeletonOf second) ∧
      ∃ clash, rules.entriesOf words clashing = .error clash ∧
        rules.skeletonOf clash.collision.owner = rules.skeletonOf clash.collision.constant := by
  intro rules words text header clashing
  have hascii : ∀ c ∈ text.toList, Letter.isAscii c = true :=
    List.all_eq_true.mp (by decide +kernel)
  have hfound : rules.entriesOf words header = .ok
      ⟨[⟨"kIOPSAdapterIDKey", "adapterID"⟩, ⟨"kIOPS_TYPE_2Key", "\x60type2\x60"⟩], []⟩ := by
    decide +kernel
  have hclash : rules.entriesOf words clashing =
      .error ⟨⟨"aB", "kIOPSA_b", "kIOPSaB"⟩, []⟩ := by decide +kernel
  have hfirst : "kIOPSaB" ∈ (Header.scan clashing).constants := by decide +kernel
  have hsecond : "kIOPSA_b" ∈ (Header.scan clashing).constants := by decide +kernel
  have hsame : rules.identify "kIOPSaB" = rules.identify "kIOPSA_b" := by decide +kernel
  obtain ⟨hspelled, -, hentries, -, -⟩ := naming_keeps_letters rules words header
  obtain ⟨-, -, -, hpairs, hcollision⟩ := naming_keeps_letters rules words clashing
  have hlast := List.mem_cons_of_mem (⟨"kIOPSAdapterIDKey", "adapterID"⟩ : Entry)
    (List.mem_singleton_self (⟨"kIOPS_TYPE_2Key", "\x60type2\x60"⟩ : Entry))
  exact ⟨hascii, by decide +kernel, hspelled .lowerCamel text hascii,
    ⟨_, hfound, _, hlast, rfl, hentries _ hfound _ hlast⟩,
    ⟨_, hfirst, _, hsecond, by decide, hsame, hpairs _ hfirst _ hsecond hsame⟩,
    _, hclash, hcollision _ hclash⟩

end Rules

end HeaderEnum.Naming
