import HeaderEnum.Naming.Entry
import Mathlib.Data.List.Infix

/-!
# The longest affix

A name is the longest listed prefix that it begins with, what stripping leaves of it, and the
longest listed suffix that the remainder ends with. Only the length of the longest affix counts, so
the order of a list, its repetitions and its empty members make no difference. Dropping a suffix is
dropping a prefix in the mirror.
-/

namespace HeaderEnum.Naming

/-- The text begins with the affix. -/
def Begins (text affix : String) : Prop := affix.toList <+: text.toList

/-- The text ends with the affix. -/
def Ends (text affix : String) : Prop := affix.toList <:+ text.toList

/-- The longest affix of a list that fits, and the empty one when no other fits. -/
inductive IsLongest (fits : String → Prop) (affixes : List String) : String → Prop
  | listed {affix : String} : affix ∈ affixes → affix ≠ "" → fits affix →
    (∀ other ∈ affixes, fits other → other.length ≤ affix.length) → IsLongest fits affixes affix
  | none : (∀ affix ∈ affixes, affix ≠ "" → ¬fits affix) → IsLongest fits affixes ""

/-- Two lists have the same affixes, empty ones apart. -/
def SameAffixes (affixes others : List String) : Prop :=
  ∀ affix, affix ≠ "" → (affix ∈ affixes ↔ affix ∈ others)

/-- A text read from its end. -/
def mirrored (text : String) : String := String.ofList text.toList.reverse

/-! ## The longest affix that fits -/

/-- Of two longest affixes none is longer. -/
theorem IsLongest.length_le {fits : String → Prop} {affixes : List String} {affix other : String}
    (h : IsLongest fits affixes affix) (ho : IsLongest fits affixes other) :
    affix.length ≤ other.length := by
  cases h with
  | none => exact Nat.zero_le _
  | listed hm hne hf _ =>
    cases ho with
    | listed _ _ _ hgreatest => exact hgreatest affix hm hf
    | none hnone => exact absurd hf (hnone affix hm hne)

/-- Any two longest affixes have one length. -/
theorem IsLongest.length_eq {fits : String → Prop} {affixes : List String} {affix other : String}
    (h : IsLongest fits affixes affix) (ho : IsLongest fits affixes other) :
    affix.length = other.length :=
  Nat.le_antisymm (h.length_le ho) (ho.length_le h)

/-- A longest affix fits, if the empty one does. -/
theorem IsLongest.fits {fits : String → Prop} {affixes : List String} {affix : String}
    (h : IsLongest fits affixes affix) (hempty : fits "") : fits affix := by
  cases h with
  | listed _ _ hf _ => exact hf
  | none => exact hempty

/-- What is searched for is the longest affix that fits. -/
theorem isLongest_longestFitting (fits : List Char → Bool) (h : fits [] = true)
    (affixes : List String) :
    IsLongest (fun affix => fits affix.toList = true) affixes
      (String.ofList (longestFitting fits (affixes.map String.toList))) := by
  have hgreatest : ∀ affix ∈ affixes, fits affix.toList = true →
      affix.length ≤ (longestFitting fits (affixes.map String.toList)).length := by
    intro affix hm hf
    rw [← String.length_toList]
    exact length_le_longestFitting (List.mem_map_of_mem hm) hf
  have hfits := longestFitting_fits h (affixes.map String.toList)
  by_cases hnil : longestFitting fits (affixes.map String.toList) = []
  · rw [hnil] at hgreatest ⊢
    refine .none fun affix hm hne hf => hne ?_
    exact String.length_eq_zero_iff.mp (Nat.le_zero.mp (hgreatest affix hm hf))
  · obtain ⟨affix, hm, he⟩ := List.mem_map.mp
      ((longestFitting_mem fits (affixes.map String.toList)).resolve_right hnil)
    rw [← he] at hgreatest hfits hnil ⊢
    rw [String.ofList_toList]
    have hne : affix ≠ "" := fun hempty => hnil (by rw [hempty]; rfl)
    exact .listed hm hne hfits hgreatest

/-! ## Prefixes and suffixes -/

/-- The prefix that is dropped is the longest one. -/
theorem isLongest_prefix (name : String) (prefixes : List String) :
    IsLongest (Begins name) prefixes
      (String.ofList (longestFitting (fun affix => affix.isPrefixOf name.toList)
        (prefixes.map String.toList))) := by
  have h := isLongest_longestFitting (fun affix => affix.isPrefixOf name.toList) rfl prefixes
  simp only [List.isPrefixOf_iff_prefix] at h
  exact h

/-- The suffix that is dropped is the longest one. -/
theorem isLongest_suffix (name : String) (suffixes : List String) :
    IsLongest (Ends name) suffixes
      (String.ofList (longestFitting (fun affix => affix.isSuffixOf name.toList)
        (suffixes.map String.toList))) := by
  have hempty : ([] : List Char).isSuffixOf name.toList = true :=
    List.isSuffixOf_iff_suffix.mpr List.nil_suffix
  have h := isLongest_longestFitting (fun affix => affix.isSuffixOf name.toList) hempty suffixes
  simp only [List.isSuffixOf_iff_suffix] at h
  exact h

/-- A name is its longest prefix and what is left without it. -/
theorem dropPrefix_eq_iff {name rest : String} {prefixes : List String} :
    dropPrefix name prefixes = rest ↔
      ∃ first, name = first ++ rest ∧ IsLongest (Begins name) prefixes first := by
  have hlongest := isLongest_prefix name prefixes
  constructor
  · rintro rfl
    have hbegins := hlongest.fits List.nil_prefix
    rw [Begins, String.toList_ofList] at hbegins
    refine ⟨_, String.toList_inj.mp ?_, hlongest⟩
    rw [String.toList_append, dropPrefix, String.toList_ofList, String.toList_ofList, withoutPrefix]
    exact List.prefix_append_drop hbegins
  · rintro ⟨first, he, hfirst⟩
    -- the name is cut at a length, so the length of the given prefix is enough
    have hlength := hlongest.length_eq hfirst
    rw [String.length_ofList, ← String.length_toList] at hlength
    rw [dropPrefix, withoutPrefix, hlength, ← String.toList_inj, String.toList_ofList, he,
      String.toList_append]
    exact List.drop_left

/-- A name is what is left without its longest suffix, and that suffix. -/
theorem dropSuffix_eq_iff {name rest : String} {suffixes : List String} :
    dropSuffix name suffixes = rest ↔
      ∃ last, name = rest ++ last ∧ IsLongest (Ends name) suffixes last := by
  have hlongest := isLongest_suffix name suffixes
  constructor
  · rintro rfl
    have hends := hlongest.fits List.nil_suffix
    rw [Ends, String.toList_ofList] at hends
    refine ⟨_, String.toList_inj.mp ?_, hlongest⟩
    rw [String.toList_append, dropSuffix, String.toList_ofList, String.toList_ofList, withoutSuffix]
    exact (List.suffix_iff_eq_append.mp hends).symm
  · rintro ⟨last, he, hlast⟩
    have hlength := hlongest.length_eq hlast
    rw [String.length_ofList, ← String.length_toList] at hlength
    rw [dropSuffix, withoutSuffix, hlength, ← String.toList_inj, String.toList_ofList, he,
      String.toList_append, List.length_append, Nat.add_sub_cancel]
    exact List.take_left

/-- A name is its longest prefix, what is left without affixes, and the longest suffix of what
follows the prefix. -/
theorem dropAffixes_eq_iff {name rest : String} {prefixes suffixes : List String} :
    dropAffixes name prefixes suffixes = rest ↔ ∃ first last, name = first ++ rest ++ last ∧
      IsLongest (Begins name) prefixes first ∧ IsLongest (Ends (rest ++ last)) suffixes last := by
  rw [dropAffixes, dropSuffix_eq_iff]
  constructor
  · rintro ⟨last, he, hlast⟩
    obtain ⟨first, hname, hfirst⟩ := dropPrefix_eq_iff.mp he
    rw [he] at hlast
    exact ⟨first, last, by rw [hname, String.append_assoc], hfirst, hlast⟩
  · rintro ⟨first, last, hname, hfirst, hlast⟩
    rw [String.append_assoc] at hname
    have he : dropPrefix name prefixes = rest ++ last :=
      dropPrefix_eq_iff.mpr ⟨first, hname, hfirst⟩
    exact ⟨last, he, he ▸ hlast⟩

/-! ## Lists with the same affixes -/

/-- A longest affix is the longest one in every list with the same affixes. -/
theorem IsLongest.of_sameAffixes {fits : String → Prop} {affixes others : List String}
    {affix : String} (h : IsLongest fits affixes affix) (hsame : SameAffixes affixes others) :
    IsLongest fits others affix := by
  cases h with
  | listed hm hne hf hgreatest =>
    refine .listed ((hsame _ hne).mp hm) hne hf fun other ho hfo => ?_
    by_cases hempty : other = ""
    · rw [hempty]
      exact Nat.zero_le _
    · exact hgreatest other ((hsame other hempty).mpr ho) hfo
  | none hnone => exact .none fun other ho hne => hnone other ((hsame other hne).mpr ho) hne

/-- Stripping is the same for lists with the same affixes. -/
theorem dropAffixes_of_sameAffixes {prefixes otherPrefixes suffixes otherSuffixes : List String}
    (hprefixes : SameAffixes prefixes otherPrefixes)
    (hsuffixes : SameAffixes suffixes otherSuffixes) (name : String) :
    dropAffixes name otherPrefixes otherSuffixes = dropAffixes name prefixes suffixes := by
  obtain ⟨first, last, hname, hfirst, hlast⟩ :=
    dropAffixes_eq_iff.mp (rfl : dropAffixes name prefixes suffixes = _)
  have hfirst' := hfirst.of_sameAffixes hprefixes
  have hlast' := hlast.of_sameAffixes hsuffixes
  exact dropAffixes_eq_iff.mpr ⟨first, last, hname, hfirst', hlast'⟩

namespace Rules

/-- The rules with other affixes. -/
def withAffixes (rules : Rules) (prefixes suffixes : List String) : Rules :=
  { rules with prefixes := prefixes, suffixes := suffixes }

/-- What is collected depends on the rules only by what they make of each constant. -/
theorem collect_congr {rules others : Rules}
    (h : ∀ constant, rules.derive constant = others.derive constant) (words : ReservedWords)
    (owners : Owners) (constants : List String) :
    rules.collect words owners constants = others.collect words owners constants := by
  induction constants generalizing owners with
  | nil => rfl
  | cons constant rest ih => simp only [collect, h constant, ih]

/-- A header has the same outcome under lists with the same affixes. -/
theorem entriesOf_of_sameAffixes {prefixes otherPrefixes suffixes otherSuffixes : List String}
    (hprefixes : SameAffixes prefixes otherPrefixes)
    (hsuffixes : SameAffixes suffixes otherSuffixes) (rules : Rules) (words : ReservedWords)
    (header : String) :
    (rules.withAffixes otherPrefixes otherSuffixes).entriesOf words header =
      (rules.withAffixes prefixes suffixes).entriesOf words header := by
  have hderive : ∀ constant, (rules.withAffixes otherPrefixes otherSuffixes).derive constant =
      (rules.withAffixes prefixes suffixes).derive constant := by
    intro constant
    have hstripped := dropAffixes_of_sameAffixes hprefixes hsuffixes constant
    simp only [derive, withAffixes, hstripped]
    rfl
  rw [entriesOf, entriesOf, collect_congr hderive]

end Rules

/-! ## Suffixes in the mirror -/

/-- The mirror shows a text twice mirrored as it is. -/
theorem mirrored_mirrored (text : String) : mirrored (mirrored text) = text := by
  rw [mirrored, mirrored, String.toList_ofList, List.reverse_reverse, String.ofList_toList]

/-- The mirror turns the parts of a text around. -/
theorem mirrored_append (first last : String) :
    mirrored (first ++ last) = mirrored last ++ mirrored first := by
  rw [mirrored, String.toList_append, List.reverse_append, String.ofList_append, mirrored, mirrored]

/-- The mirror keeps lengths. -/
theorem length_mirrored (text : String) : (mirrored text).length = text.length := by
  rw [mirrored, String.length_ofList, List.length_reverse, String.length_toList]

/-- A text that ends with an affix begins with it in the mirror. -/
theorem begins_mirrored_iff {text affix : String} :
    Begins (mirrored text) (mirrored affix) ↔ Ends text affix := by
  rw [Begins, Ends, mirrored, mirrored, String.toList_ofList, String.toList_ofList,
    List.reverse_prefix]

/-- The longest suffix is the longest prefix in the mirror. -/
theorem IsLongest.in_mirror {name last : String} {suffixes : List String}
    (h : IsLongest (Ends name) suffixes last) :
    IsLongest (Begins (mirrored name)) (suffixes.map mirrored) (mirrored last) := by
  cases h with
  | listed hm hne hf hgreatest =>
    refine .listed (List.mem_map_of_mem hm) ?_ (begins_mirrored_iff.mpr hf) ?_
    · intro hempty
      exact hne ((mirrored_mirrored last).symm.trans (congrArg mirrored hempty))
    · intro other ho hfo
      obtain ⟨suffix, hs, rfl⟩ := List.mem_map.mp ho
      rw [length_mirrored, length_mirrored]
      exact hgreatest suffix hs (begins_mirrored_iff.mp hfo)
  | none hnone =>
    refine .none fun other ho hne hfo => ?_
    obtain ⟨suffix, hs, rfl⟩ := List.mem_map.mp ho
    have hempty : suffix ≠ "" := fun he => hne (congrArg mirrored he)
    exact hnone suffix hs hempty (begins_mirrored_iff.mp hfo)

/-- Dropping a suffix is dropping a prefix in the mirror. -/
theorem dropSuffix_eq_mirrored (name : String) (suffixes : List String) :
    dropSuffix name suffixes =
      mirrored (dropPrefix (mirrored name) (suffixes.map mirrored)) := by
  obtain ⟨last, hname, hlast⟩ := dropSuffix_eq_iff.mp (rfl : dropSuffix name suffixes = _)
  have hparts := (congrArg mirrored hname).trans (mirrored_append _ last)
  rw [dropPrefix_eq_iff.mpr ⟨mirrored last, hparts, hlast.in_mirror⟩, mirrored_mirrored]

/-! ## All of stripping -/

/-- What stripping does. A name is the longest prefix, what is left of it, and the longest suffix of
what follows the prefix, and only what is left of it stands in this way between a longest prefix and
a longest suffix. Lists with the same affixes, empty ones apart, leave the same of every name and
give every header the same outcome. Dropping a suffix is dropping a prefix in the mirror. -/
theorem dropAffixes_exact (name : String) (prefixes suffixes : List String) :
    (∀ rest, dropAffixes name prefixes suffixes = rest ↔
      ∃ first last, name = first ++ rest ++ last ∧ IsLongest (Begins name) prefixes first ∧
        IsLongest (Ends (rest ++ last)) suffixes last) ∧
    (∀ otherPrefixes otherSuffixes, SameAffixes prefixes otherPrefixes →
      SameAffixes suffixes otherSuffixes →
        dropAffixes name otherPrefixes otherSuffixes = dropAffixes name prefixes suffixes ∧
        ∀ (rules : Rules) (words : ReservedWords) (header : String),
          (rules.withAffixes otherPrefixes otherSuffixes).entriesOf words header =
            (rules.withAffixes prefixes suffixes).entriesOf words header) ∧
    dropSuffix name suffixes =
      mirrored (dropPrefix (mirrored name) (suffixes.map mirrored)) := by
  refine ⟨fun rest => dropAffixes_eq_iff, ?_, dropSuffix_eq_mirrored name suffixes⟩
  intro otherPrefixes otherSuffixes hprefixes hsuffixes
  exact ⟨dropAffixes_of_sameAffixes hprefixes hsuffixes name,
    Rules.entriesOf_of_sameAffixes hprefixes hsuffixes⟩

/-- A prefix and a suffix that overlap, with the lists in another order, repeated and with empty
members. -/
theorem dropAffixes_exact_overlapping :
    let name := "kIOKey"
    let prefixes := ["k", "kIOK"]
    let otherPrefixes := ["kIOK", "", "k", "kIOK"]
    let suffixes := ["Key", "y"]
    let otherSuffixes := ["y", "Key", "y", ""]
    dropAffixes name prefixes suffixes = "e" ∧ SameAffixes prefixes otherPrefixes ∧
      SameAffixes suffixes otherSuffixes ∧
      dropAffixes name otherPrefixes otherSuffixes = dropAffixes name prefixes suffixes ∧
      ∀ (rules : Rules) (words : ReservedWords) (header : String),
        (rules.withAffixes otherPrefixes otherSuffixes).entriesOf words header =
          (rules.withAffixes prefixes suffixes).entriesOf words header := by
  intro name prefixes otherPrefixes suffixes otherSuffixes
  have hleft : dropAffixes name prefixes suffixes = "e" := by decide +kernel
  have hprefixes : SameAffixes prefixes otherPrefixes := by
    intro affix hne
    simp only [prefixes, otherPrefixes, List.mem_cons, List.not_mem_nil, hne]
    grind
  have hsuffixes : SameAffixes suffixes otherSuffixes := by
    intro affix hne
    simp only [suffixes, otherSuffixes, List.mem_cons, List.not_mem_nil, hne]
    grind
  obtain ⟨-, hsame, -⟩ := dropAffixes_exact name prefixes suffixes
  exact ⟨hleft, hprefixes, hsuffixes, hsame otherPrefixes otherSuffixes hprefixes hsuffixes⟩

end HeaderEnum.Naming
