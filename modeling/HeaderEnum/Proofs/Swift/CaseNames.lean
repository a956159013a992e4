import HeaderEnum.Generation
import HeaderEnum.Proofs.Naming.Quoting
import HeaderEnum.Proofs.Swift.Acceptance
import HeaderEnum.Swift.Keyword

/-!
# Case names of a generated enum

Whatever a header holds and whatever the rules are, the identifiers of its surviving constants are
ASCII case names. Quoting puts a grave accent around keywords only, and no case name holds one, so
names that differ before quoting differ after it. The generation therefore fails at collisions only.
-/

namespace HeaderEnum.Swift

open Naming (IsCaseName)

/-- How a case name stands in a file: as it is, or between grave accents when it is a keyword. -/
inductive IsWritten : String → Prop
  | plain {name : String} : IsCaseName name.toList → name ∉ keywords → IsWritten name
  | quoted {name : String} : IsCaseName name.toList → name ∈ keywords →
    IsWritten ("\x60" ++ name ++ "\x60")

/-- The entries make a well-formed enum: their constants are distinct identifiers, and their case
names are distinct, pure ASCII, and quoted exactly when they have to be. -/
structure WellFormed (entries : List Naming.Entry) : Prop where
  /-- Every constant is an identifier. -/
  constants : ∀ entry ∈ entries, Header.IsAsciiIdentifier entry.constant.toList
  /-- No constant stands twice. -/
  constants_nodup : (entries.map (·.constant)).Nodup
  /-- Every case name is written as it has to be. -/
  identifiers : ∀ entry ∈ entries, IsWritten entry.identifier
  /-- Every character of a case name is ASCII. -/
  ascii : ∀ entry ∈ entries, ∀ c ∈ entry.identifier.toList, Letter.isAscii c = true
  /-- No case name stands twice. -/
  identifiers_nodup : (entries.map (·.identifier)).Nodup

/-! ## Quoting -/

/-- Only keywords are reserved. -/
theorem isReserved_iff (name : String) :
    reservedWords.isReserved name = true ↔ name ∈ keywords := List.contains_iff_mem

/-- A keyword is quoted. -/
theorem escape_of_mem {name : String} (h : name ∈ keywords) :
    reservedWords.escape name = "\x60" ++ name ++ "\x60" :=
  if_pos ((isReserved_iff name).mpr h)

/-- Any other name stays as it is. -/
theorem escape_of_not_mem {name : String} (h : name ∉ keywords) :
    reservedWords.escape name = name :=
  if_neg fun hr => h ((isReserved_iff name).mp hr)

/-- A case name is written as it has to be. -/
theorem isWritten_escape {name : String} (h : IsCaseName name.toList) :
    IsWritten (reservedWords.escape name) := by
  by_cases hk : name ∈ keywords
  · rw [escape_of_mem hk]
    exact .quoted h hk
  · rw [escape_of_not_mem hk]
    exact .plain h hk

/-- A written case name is pure ASCII. -/
theorem IsWritten.isAscii {text : String} (h : IsWritten text) :
    ∀ c ∈ text.toList, Letter.isAscii c = true := by
  cases h with
  | plain hn hk => exact hn.isAsciiWordText.isAscii
  | quoted hn hk =>
    intro c hc
    rw [String.toList_append, String.toList_append] at hc
    rcases List.mem_append.mp hc with hc | hc
    · rcases List.mem_append.mp hc with hc | hc
      · rw [List.mem_singleton.mp hc]
        rfl
      · exact hn.isAsciiWordText.isAscii c hc
    · rw [List.mem_singleton.mp hc]
      rfl

/-- A text without its grave accents. -/
def withoutGraves (text : List Char) : List Char := text.filter (· ≠ '\x60')

/-- An ASCII word text has no grave accents. -/
theorem withoutGraves_of_word {text : List Char} (h : Letter.IsAsciiWordText text) :
    withoutGraves text = text := by
  refine List.filter_eq_self.mpr fun c hc => ?_
  have hne : c ≠ '\x60' := by
    rintro rfl
    exact absurd (h _ hc) (by decide)
  exact decide_eq_true hne

/-- Without its grave accents a written case name is the name again. -/
theorem withoutGraves_escape {name : String} (h : Letter.IsAsciiWordText name.toList) :
    withoutGraves (reservedWords.escape name).toList = name.toList := by
  by_cases hk : name ∈ keywords
  · have hg : withoutGraves "\x60".toList = [] := by decide
    rw [escape_of_mem hk, String.toList_append, String.toList_append]
    simp only [withoutGraves, List.filter_append] at hg ⊢
    rw [hg, List.nil_append, List.append_nil]
    exact withoutGraves_of_word h
  · rw [escape_of_not_mem hk]
    exact withoutGraves_of_word h

/-- Different ASCII names are written differently. -/
theorem escape_injective {first second : String} (hf : Letter.IsAsciiWordText first.toList)
    (hs : Letter.IsAsciiWordText second.toList)
    (h : reservedWords.escape first = reservedWords.escape second) : first = second := by
  have hw := congrArg (fun text => withoutGraves text.toList) h
  simp only [withoutGraves_escape hf, withoutGraves_escape hs] at hw
  exact String.toList_inj.mp hw

/-! ## Identifiers of constants -/

/-- The entries of distinct ASCII identifiers that the rules distinguish are well formed. -/
theorem wellFormed_entries {rules : Naming.Rules} {constants : List String}
    (hi : ∀ constant ∈ constants, Header.IsAsciiIdentifier constant.toList)
    (hn : constants.Nodup) (hd : rules.Distinguishes constants) :
    WellFormed ((rules.survivors constants).map (rules.entry reservedWords)) := by
  have hs : ∀ constant ∈ rules.survivors constants, Header.IsAsciiIdentifier constant.toList :=
    fun constant hm => hi constant (List.mem_filter.mp hm).1
  have hname : ∀ constant ∈ rules.survivors constants,
      IsCaseName (rules.identify constant).toList :=
    fun constant hm => rules.isCaseName_identify (hs constant hm)
  have hwritten : ∀ constant ∈ rules.survivors constants,
      IsWritten (reservedWords.escape (rules.identify constant)) :=
    fun constant hm => isWritten_escape (hname constant hm)
  refine ⟨?_, ?_, ?_, ?_, ?_⟩
  · intro entry he
    obtain ⟨constant, hm, rfl⟩ := List.mem_map.mp he
    rw [Naming.Rules.entry_constant]
    exact hs constant hm
  · rw [List.map_map]
    exact (hn.filter _).map_on fun first _ second _ he => he
  · intro entry he
    obtain ⟨constant, hm, rfl⟩ := List.mem_map.mp he
    rw [Naming.Rules.entry_identifier]
    exact hwritten constant hm
  · intro entry he
    obtain ⟨constant, hm, rfl⟩ := List.mem_map.mp he
    rw [Naming.Rules.entry_identifier]
    exact (hwritten constant hm).isAscii
  · rw [List.map_map]
    refine (hn.filter _).map_on fun first hf second hg he => ?_
    have hfirst := (hname first hf).isAsciiWordText
    have hsecond := (hname second hg).isAsciiWordText
    simp only [Function.comp_apply, Naming.Rules.entry_identifier] at he
    exact hd first hf second hg (escape_injective hfirst hsecond he)

/-- An identifier is not the empty text. -/
theorem WellFormed.constant_ne_empty {entries : List Naming.Entry} (h : WellFormed entries) :
    ∀ entry ∈ entries, entry.constant ≠ "" := by
  intro entry hm he
  obtain ⟨c, rest, hc, -, -⟩ := h.constants entry hm
  rw [he] at hc
  exact absurd hc (List.cons_ne_nil c rest).symm

/-- Every generation of a Swift file ends in one of two ways, whatever the header, the rules and the
layout: with a well-formed enum, or with a collision of identifiers. -/
theorem generate_wellFormed_or_collision (rules : Naming.Rules) (layout : Layout)
    (header : String) :
    (∃ generated, generate rules reservedWords layout header = .ok generated ∧
        WellFormed generated.entries) ∨
      ∃ collision warnings,
        generate rules reservedWords layout header = .error ⟨.collision collision, warnings⟩ := by
  have hn := Header.nodup_constants header
  by_cases hd : rules.Distinguishes (Header.scan header).constants
  · have hw : WellFormed ((rules.survivors (Header.scan header).constants).map
        (rules.entry reservedWords)) :=
      wellFormed_entries (fun _ => Header.isAsciiIdentifier_of_mem_constants) hn hd
    obtain ⟨text, ht⟩ := emit_of_constants layout hw.constant_ne_empty
    rw [generate, Naming.Rules.entriesOf_of_distinguishes reservedWords hd]
    simp only [ht]
    exact .inl ⟨_, rfl, hw⟩
  · obtain ⟨before, late, owner, hc⟩ := Naming.Rules.exists_firstClash hn hd
    refine .inr ⟨⟨rules.identify late, late, owner⟩,
      (Header.scan header).warnings ++ rules.skipped before, ?_⟩
    rw [generate, Naming.Rules.entriesOf_of_firstClash reservedWords hc]

end HeaderEnum.Swift
