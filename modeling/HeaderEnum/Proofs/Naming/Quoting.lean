import HeaderEnum.Proofs.Naming.AsciiNames
import HeaderEnum.Proofs.Naming.IdentifierForm
import HeaderEnum.Proofs.Naming.Survivors

/-!
# Quoted identifiers

Collisions are looked for before reserved words are quoted, so the identifiers of a header are
distinct as long as none is quoted. A rule that puts reserved words between two texts keeps quoted
names apart from each other, and plain names stay as they are; the one way to lose distinctness is a
quoted name that is the plain name of another constant. Identifiers are ASCII words, so this cannot
happen under a rule that adds any other character.
-/

namespace HeaderEnum.Naming

namespace ReservedWords

/-- The names of any set are reserved and quoted between two texts. -/
def around (isReserved : String → Bool) (before after : String) : ReservedWords :=
  ⟨isReserved, fun name => before ++ name ++ after⟩

/-- Among some names, a reserved one is quoted as one that is not reserved. -/
def Overlaps (words : ReservedWords) (names : List String) : Prop :=
  ∃ reserved ∈ names, ∃ plain ∈ names,
    words.isReserved reserved = true ∧ words.isReserved plain = false ∧
      words.quote reserved = plain

variable {words : ReservedWords}

/-- A reserved name is quoted. -/
theorem escape_of_isReserved {name : String} (h : words.isReserved name = true) :
    words.escape name = words.quote name := if_pos h

/-- A plain name stays as it is. -/
theorem escape_of_not_isReserved {name : String} (h : words.isReserved name = false) :
    words.escape name = name := by
  rw [escape, h, if_neg Bool.false_ne_true]

/-- Under a rule that quotes different names differently, distinct names stay distinct unless a
quoted one is a plain one. -/
theorem nodup_map_escape_iff {names : List String} (hn : names.Nodup)
    (hq : Function.Injective words.quote) :
    (names.map words.escape).Nodup ↔ ¬words.Overlaps names := by
  constructor
  · rintro hd ⟨reserved, hr, plain, hp, hreserved, hplain, he⟩
    have hsame : words.escape reserved = words.escape plain := by
      rw [escape_of_isReserved hreserved, escape_of_not_isReserved hplain, he]
    rw [List.inj_on_of_nodup_map hd hr hp hsame, hplain] at hreserved
    exact Bool.false_ne_true hreserved
  · intro ho
    refine hn.map_on fun first hf second hs he => ?_
    cases hrf : words.isReserved first with
    | true =>
      rw [escape_of_isReserved hrf] at he
      cases hrs : words.isReserved second with
      | true =>
        rw [escape_of_isReserved hrs] at he
        exact hq he
      | false =>
        rw [escape_of_not_isReserved hrs] at he
        exact absurd ⟨first, hf, second, hs, hrf, hrs, he⟩ ho
    | false =>
      rw [escape_of_not_isReserved hrf] at he
      cases hrs : words.isReserved second with
      | true =>
        rw [escape_of_isReserved hrs] at he
        exact absurd ⟨second, hs, first, hf, hrs, hrf, he.symm⟩ ho
      | false => rwa [escape_of_not_isReserved hrs] at he

/-- Different names between the same two texts are different. -/
theorem quote_around_injective (isReserved : String → Bool) (before after : String) :
    Function.Injective (around isReserved before after).quote := by
  intro first second he
  have hl := congrArg String.toList he
  simp only [around, String.toList_append, List.append_assoc, List.append_cancel_left_eq,
    List.append_cancel_right_eq] at hl
  exact String.toList_inj.mp hl

/-- A rule that adds another character than those of ASCII words quotes no name as such a word. -/
theorem not_overlaps_around (isReserved : String → Bool) {before after : String} {c : Char}
    (hc : c ∈ (before ++ after).toList) (hw : Letter.isAsciiWord c = false) {names : List String}
    (hn : ∀ name ∈ names, Letter.IsAsciiWordText name.toList) :
    ¬(around isReserved before after).Overlaps names := by
  rintro ⟨reserved, -, plain, hp, -, -, he⟩
  have hm : c ∈ plain.toList := by
    rw [← he]
    simp only [around, String.toList_append, List.mem_append] at hc ⊢
    rcases hc with hc | hc
    · exact .inl (.inl hc)
    · exact .inr hc
  exact Bool.false_ne_true (hw.symm.trans (hn plain hp c hm))

end ReservedWords

namespace Rules

/-- The identifier of an ASCII identifier is an ASCII case name under all rules. -/
theorem isCaseName_identify (rules : Rules) {constant : String}
    (h : Header.IsAsciiIdentifier constant.toList) :
    IsCaseName (rules.identify constant).toList := by
  have hc : Letter.IsAsciiWordText constant.toList := h.isAsciiWord
  have hd := hc.of_subset (dropAffixes_subset constant rules.prefixes rules.suffixes)
  have hs := isAsciiWordText_spell rules.style hd
  rw [toList_identify]
  exact isCaseName_of_startsWell (isAsciiWordText_identifierOf hs) (startsWell_identifierOf _)

/-- The identifiers of the surviving constants of a header, in order. -/
def identifiers (rules : Rules) (header : String) : List String :=
  (rules.survivors (Header.scan header).constants).map rules.identify

/-- The identifiers of a header are ASCII words. -/
theorem isAsciiWordText_of_mem_identifiers {rules : Rules} {header identifier : String}
    (h : identifier ∈ rules.identifiers header) : Letter.IsAsciiWordText identifier.toList := by
  obtain ⟨constant, hm, rfl⟩ := List.mem_map.mp h
  have hi := Header.isAsciiIdentifier_of_mem_constants (List.mem_filter.mp hm).1
  exact (rules.isCaseName_identify hi).isAsciiWordText

/-- A header that has entries has distinct identifiers, and its entries show them, quoted where they
have to be. -/
theorem identifiers_of_entriesOf {rules : Rules} {words : ReservedWords} {header : String}
    {found : Entries} (h : rules.entriesOf words header = .ok found) :
    (rules.identifiers header).Nodup ∧
      found.entries.map (·.identifier) = (rules.identifiers header).map words.escape := by
  obtain ⟨hd, rfl⟩ := entriesOf_eq_ok h
  refine ⟨(distinguishes_iff (Header.nodup_constants header)).mp hd, ?_⟩
  rw [identifiers, List.map_map, List.map_map]
  rfl

/-- Under any rule that puts the names of some set between two texts, a header that has entries has
distinct identifiers before quoting, and its entries show distinct ones exactly when no quoted
identifier is a plain one. They always do when one of the two texts holds a character that is no
ASCII letter, digit or underscore. -/
theorem nodup_identifiers_iff {rules : Rules} {isReserved : String → Bool}
    {before after header : String} {found : Entries}
    (h : rules.entriesOf (.around isReserved before after) header = .ok found) :
    (rules.identifiers header).Nodup ∧
      ((found.entries.map (·.identifier)).Nodup ↔
        ¬(ReservedWords.around isReserved before after).Overlaps (rules.identifiers header)) ∧
      ((∃ c ∈ (before ++ after).toList, Letter.isAsciiWord c = false) →
        (found.entries.map (·.identifier)).Nodup) := by
  obtain ⟨hn, he⟩ := identifiers_of_entriesOf h
  have hiff := ReservedWords.nodup_map_escape_iff hn
    (ReservedWords.quote_around_injective isReserved before after)
  rw [he]
  refine ⟨hn, hiff, ?_⟩
  rintro ⟨c, hc, hw⟩
  exact hiff.mpr (ReservedWords.not_overlaps_around isReserved hc hw
    fun _ => isAsciiWordText_of_mem_identifiers)

/-- A reserved word between grave accents stays apart from its neighbour. -/
theorem nodup_identifiers_iff_graves :
    let rules : Rules := { prefixes := ["k"] }
    let words := ReservedWords.around (· == "in") "\x60" "\x60"
    let header := "#define kIn 1\n#define k_In_2 2"
    ∃ found, rules.entriesOf words header = .ok found ∧
      found.entries.map (·.identifier) = ["\x60in\x60", "in2"] ∧
      (found.entries.map (·.identifier)).Nodup ∧ ¬words.Overlaps (rules.identifiers header) := by
  intro rules words header
  have h : rules.entriesOf words header = .ok ⟨[⟨"kIn", "\x60in\x60"⟩, ⟨"k_In_2", "in2"⟩], []⟩ := by
    decide +kernel
  obtain ⟨-, hiff, hgraves⟩ := nodup_identifiers_iff h
  have hn := hgraves ⟨'\x60', by decide, by decide⟩
  exact ⟨_, h, rfl, hn, hiff.mp hn⟩

/-- A rule that quotes with an underscore gives two constants one identifier. -/
theorem identifiers_repeat_under_underscore :
    let rules : Rules := { style := .keep }
    let words := ReservedWords.around (· == "type") "" "_"
    ∃ found, rules.entriesOf words "#define type 1\n#define type_ 2" = .ok found ∧
      ¬(found.entries.map (·.identifier)).Nodup := by
  intro rules words
  have h : rules.entriesOf words "#define type 1\n#define type_ 2" =
      .ok ⟨[⟨"type", "type_"⟩, ⟨"type_", "type_"⟩], []⟩ := by decide +kernel
  exact ⟨_, h, by decide⟩

end Rules

end HeaderEnum.Naming
