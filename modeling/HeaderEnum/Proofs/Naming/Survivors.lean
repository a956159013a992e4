import HeaderEnum.Naming.Entry
import HeaderEnum.Proofs.Header.Distinct
import Mathlib.Data.List.Nodup

/-!
# Surviving constants

A constant survives when it takes part and keeps a name without its affixes. The entries of a header
are those of its surviving constants when different ones have different identifiers; otherwise the
first constant that meets a taken identifier is reported with its owner. The registry of owners holds
exactly the surviving constants that were read, each under its own identifier.
-/

namespace HeaderEnum.Naming

namespace Rules

/-- The constant takes part and keeps a name without its affixes. -/
def survives (rules : Rules) (constant : String) : Bool :=
  rules.selects constant && dropAffixes constant rules.prefixes rules.suffixes != ""

/-- The constant takes part and nothing is left of its name without its affixes. -/
def empties (rules : Rules) (constant : String) : Bool :=
  rules.selects constant && dropAffixes constant rules.prefixes rules.suffixes == ""

/-- The identifier of a constant: its name stripped, spelled and made an identifier. -/
def identify (rules : Rules) (constant : String) : String :=
  sanitize (rules.style.apply (dropAffixes constant rules.prefixes rules.suffixes))

/-- The characters of the identifier of a constant. -/
theorem toList_identify (rules : Rules) (constant : String) :
    (rules.identify constant).toList = identifierOf
      (rules.style.spell (dropAffixes constant rules.prefixes rules.suffixes).toList) := by
  rw [identify, sanitize, CaseStyle.apply, String.toList_ofList, String.toList_ofList]

/-- The surviving constants, in order. -/
def survivors (rules : Rules) (constants : List String) : List String :=
  constants.filter rules.survives

/-- One warning for each constant of which nothing is left, in order. -/
def skipped (rules : Rules) (constants : List String) : List Warning :=
  (constants.filter rules.empties).map .emptied

/-- The entry of a surviving constant. -/
def entry (rules : Rules) (words : ReservedWords) (constant : String) : Entry :=
  ⟨constant, words.escape (rules.identify constant)⟩

/-- An entry shows the constant it is made for. -/
@[simp] theorem entry_constant (rules : Rules) (words : ReservedWords) (constant : String) :
    (rules.entry words constant).constant = constant := rfl

/-- An entry shows the identifier of its constant, quoted if it has to be. -/
@[simp] theorem entry_identifier (rules : Rules) (words : ReservedWords) (constant : String) :
    (rules.entry words constant).identifier = words.escape (rules.identify constant) := rfl

/-- Different surviving constants have different identifiers. -/
def Distinguishes (rules : Rules) (constants : List String) : Prop :=
  ∀ first ∈ rules.survivors constants, ∀ second ∈ rules.survivors constants,
    rules.identify first = rules.identify second → first = second

/-- The first surviving constant, behind the given ones, whose identifier an earlier surviving
constant has. -/
structure FirstClash (rules : Rules) (constants before : List String) (late owner : String) :
    Prop where
  /-- The constants before it and after it. -/
  split : ∃ after, constants = before ++ late :: after
  /-- It survives. -/
  late_survives : rules.survives late = true
  /-- Its owner survives and stands before it. -/
  owner_mem : owner ∈ rules.survivors before
  /-- Both have one identifier. -/
  same : rules.identify owner = rules.identify late
  /-- No other constant before it has that identifier. -/
  only : ∀ other ∈ rules.survivors before, rules.identify other = rules.identify late →
    other = owner
  /-- The constants before it do not clash. -/
  first : ((rules.survivors before).map rules.identify).Nodup

/-! ## One constant -/

/-- A surviving constant is derived with its identifier. -/
theorem derive_of_survives {rules : Rules} {constant : String}
    (h : rules.survives constant = true) :
    ∃ derived, rules.derive constant = .named derived ∧
      derived.identifier = rules.identify constant := by
  simp only [survives, Bool.and_eq_true, bne_iff_ne, ne_eq] at h
  rw [derive, if_pos h.1]
  simp only [if_neg h.2]
  exact ⟨_, rfl, rfl⟩

/-- A constant of which nothing is left is derived as emptied. -/
theorem derive_of_empties {rules : Rules} {constant : String} (h : rules.empties constant = true) :
    rules.derive constant = .emptied := by
  simp only [empties, Bool.and_eq_true, beq_iff_eq] at h
  rw [derive, if_pos h.1]
  simp only [if_pos h.2]

/-- Any other constant takes no part. -/
theorem derive_of_neither {rules : Rules} {constant : String}
    (hs : rules.survives constant = false) (he : rules.empties constant = false) :
    rules.derive constant = .excluded := by
  cases hm : rules.selects constant with
  | false => rw [derive, hm, if_neg Bool.false_ne_true]
  | true =>
    simp only [survives, hm, Bool.true_and, bne_eq_false_iff_eq] at hs
    simp [empties, hm, hs] at he

/-- No constant survives and is emptied. -/
theorem empties_of_survives {rules : Rules} {constant : String}
    (h : rules.survives constant = true) : rules.empties constant = false := by
  simp only [survives, Bool.and_eq_true, bne_iff_ne, ne_eq] at h
  simp [empties, h.2]

/-! ## The registry along the constants -/

/-- The registry holds exactly the surviving constants that were read. -/
def Owned (rules : Rules) (owners : Owners) (before : List String) : Prop :=
  ∀ identifier owner, owners.owner? identifier = some owner ↔
    owner ∈ rules.survivors before ∧ rules.identify owner = identifier

/-- The empty registry holds nothing. -/
theorem owned_empty (rules : Rules) : rules.Owned Owners.empty [] := by
  intro identifier owner
  simp [survivors]

/-- A constant that does not survive leaves the registry right. -/
theorem Owned.pass {rules : Rules} {owners : Owners} {before : List String} {constant : String}
    (h : rules.Owned owners before) (hs : rules.survives constant = false) :
    rules.Owned owners (before ++ [constant]) := by
  have he : rules.survivors (before ++ [constant]) = rules.survivors before := by
    simp [survivors, List.filter_append, hs]
  intro identifier owner
  rw [he]
  exact h identifier owner

/-- The claim of a surviving constant with a new identifier succeeds and leaves the registry right. -/
theorem Owned.claim {rules : Rules} {owners : Owners} {before : List String} {constant : String}
    (h : rules.Owned owners before) (hs : rules.survives constant = true)
    (hn : rules.identify constant ∉ (rules.survivors before).map rules.identify) :
    ∃ after, owners.claim (rules.identify constant) constant = .ok after ∧
      rules.Owned after (before ++ [constant]) := by
  have hfree : ∀ owner, owners.owner? (rules.identify constant) = some owner → owner = constant := by
    intro owner ho
    obtain ⟨hm, hi⟩ := (h _ _).mp ho
    exact absurd (List.mem_map.mpr ⟨owner, hm, hi⟩) hn
  obtain ⟨after, ha⟩ := (owners.claim_eq_ok_iff _ _).mpr hfree
  have hb : rules.survivors (before ++ [constant]) = rules.survivors before ++ [constant] := by
    simp [survivors, List.filter_append, hs]
  refine ⟨after, ha, fun identifier owner => ?_⟩
  rw [Owners.owner?_of_claim ha identifier, hb, List.mem_append, List.mem_singleton]
  by_cases he : identifier = rules.identify constant
  · rw [if_pos he, Option.some.injEq]
    constructor
    · rintro rfl
      exact ⟨.inr rfl, he.symm⟩
    · rintro ⟨hm | hm, hi⟩
      · exact absurd (List.mem_map.mpr ⟨owner, hm, hi.trans he⟩) hn
      · exact hm.symm
  · rw [if_neg he, h identifier owner]
    constructor
    · rintro ⟨hm, hi⟩
      exact ⟨.inl hm, hi⟩
    · rintro ⟨hm | rfl, hi⟩
      · exact ⟨hm, hi⟩
      · exact absurd hi.symm he

/-- A surviving constant whose identifier is taken by another one ends the work. -/
theorem collect_of_taken {rules : Rules} (words : ReservedWords) {owners : Owners}
    {before : List String} {late owner : String} (h : rules.Owned owners before)
    (hs : rules.survives late = true) (hm : owner ∈ rules.survivors before)
    (hi : rules.identify owner = rules.identify late) (hne : owner ≠ late) (after : List String) :
    rules.collect words owners (late :: after) =
      ⟨[], [], some ⟨rules.identify late, late, owner⟩⟩ := by
  obtain ⟨derived, hd, hid⟩ := derive_of_survives hs
  have ho : owners.owner? (rules.identify late) = some owner := (h _ _).mpr ⟨hm, hi⟩
  have hc : owners.claim (rules.identify late) late = .error ⟨rules.identify late, late, owner⟩ := by
    simp only [Owners.claim, ho, if_neg hne]
  rw [collect, hd]
  simp only [hid, hc]

/-- Constants without a clash give their entries and warnings, and the work goes on with a registry
that holds them too. -/
theorem collect_append {rules : Rules} (words : ReservedWords) {owners : Owners}
    {before first : List String} (h : rules.Owned owners before)
    (hd : ((rules.survivors (before ++ first)).map rules.identify).Nodup) :
    ∃ after, rules.Owned after (before ++ first) ∧ ∀ rest,
      rules.collect words owners (first ++ rest) =
        ⟨(rules.survivors first).map (rules.entry words) ++
            (rules.collect words after rest).entries,
          rules.skipped first ++ (rules.collect words after rest).warnings,
          (rules.collect words after rest).collision⟩ := by
  induction first generalizing owners before with
  | nil => exact ⟨owners, by simpa using h, fun rest => rfl⟩
  | cons constant first ih =>
    have hshift : before ++ constant :: first = (before ++ [constant]) ++ first := by simp
    rw [hshift] at hd ⊢
    cases hs : rules.survives constant with
    | true =>
      have hn : rules.identify constant ∉ (rules.survivors before).map rules.identify := by
        intro hm
        simp only [survivors, List.filter_append, List.filter_cons_of_pos hs, List.filter_nil,
          List.map_append, List.append_assoc] at hd
        exact List.disjoint_of_nodup_append hd hm (by simp)
      obtain ⟨next, hclaim, hnext⟩ := h.claim hs hn
      obtain ⟨after, hafter, hrun⟩ := ih hnext hd
      obtain ⟨derived, hder, hid⟩ := derive_of_survives hs
      have he := empties_of_survives hs
      refine ⟨after, hafter, fun rest => ?_⟩
      rw [List.cons_append, collect, hder]
      simp only [hid, hclaim, hrun rest]
      simp [survivors, skipped, hs, he, entry]
    | false =>
      obtain ⟨after, hafter, hrun⟩ := ih (h.pass hs) hd
      refine ⟨after, hafter, fun rest => ?_⟩
      rw [List.cons_append, collect]
      cases he : rules.empties constant with
      | true =>
        simp only [derive_of_empties he, hrun rest]
        simp [survivors, skipped, hs, he]
      | false =>
        simp only [derive_of_neither hs he, hrun rest]
        simp [survivors, skipped, hs, he]

/-! ## All constants of a header -/

variable {rules : Rules} {constants : List String}

/-- Distinct constants are distinguished when the identifiers of the surviving ones are distinct. -/
theorem distinguishes_iff (hn : constants.Nodup) :
    rules.Distinguishes constants ↔ ((rules.survivors constants).map rules.identify).Nodup :=
  (List.nodup_map_iff_inj_on (hn.filter _)).symm

/-- Either the identifiers of the surviving constants are distinct, or one of them is the first to
meet a taken one. -/
theorem nodup_or_firstClash (rules : Rules) (before rest : List String)
    (hd : ((rules.survivors before).map rules.identify).Nodup) :
    ((rules.survivors (before ++ rest)).map rules.identify).Nodup ∨
      ∃ earlier late owner, rules.FirstClash (before ++ rest) earlier late owner := by
  induction rest generalizing before with
  | nil => exact .inl (by simpa using hd)
  | cons constant rest ih =>
    have hshift : before ++ constant :: rest = (before ++ [constant]) ++ rest := by simp
    cases hs : rules.survives constant with
    | false =>
      rw [hshift]
      refine ih (before ++ [constant]) ?_
      simpa [survivors, List.filter_append, hs] using hd
    | true =>
      by_cases hm : rules.identify constant ∈ (rules.survivors before).map rules.identify
      · obtain ⟨owner, ho, hi⟩ := List.mem_map.mp hm
        refine .inr ⟨before, constant, owner, ⟨rest, rfl⟩, hs, ho, hi, ?_, hd⟩
        intro other hother he
        exact List.inj_on_of_nodup_map hd hother ho (he.trans hi.symm)
      · rw [hshift]
        refine ih (before ++ [constant]) ?_
        have he : (rules.survivors (before ++ [constant])).map rules.identify =
            (rules.survivors before).map rules.identify ++ [rules.identify constant] := by
          simp [survivors, List.filter_append, hs]
        rw [he]
        exact hd.append (List.nodup_singleton _) (by simpa using hm)

/-- The owner in a clash is another constant. -/
theorem FirstClash.owner_ne {before : List String} {late owner : String}
    (h : rules.FirstClash constants before late owner) (hn : constants.Nodup) : owner ≠ late := by
  obtain ⟨after, rfl⟩ := h.split
  rintro rfl
  have hm : owner ∈ before := (List.mem_filter.mp h.owner_mem).1
  exact List.disjoint_of_nodup_append hn hm List.mem_cons_self

/-- Both constants of a clash survive. -/
theorem FirstClash.mem_survivors {before : List String} {late owner : String}
    (h : rules.FirstClash constants before late owner) :
    owner ∈ rules.survivors constants ∧ late ∈ rules.survivors constants := by
  obtain ⟨after, he⟩ := h.split
  have ho : owner ∈ rules.survivors constants := by
    rw [he, survivors, List.filter_append]
    exact List.mem_append_left _ h.owner_mem
  have hl : late ∈ rules.survivors constants := by
    rw [he]
    exact List.mem_filter.mpr ⟨by simp, h.late_survives⟩
  exact ⟨ho, hl⟩

/-- Constants with a clash are not distinguished. -/
theorem FirstClash.not_distinguishes {before : List String} {late owner : String}
    (h : rules.FirstClash constants before late owner) (hn : constants.Nodup) :
    ¬rules.Distinguishes constants := by
  intro hd
  obtain ⟨ho, hl⟩ := h.mem_survivors
  exact h.owner_ne hn (hd owner ho late hl h.same)

/-- Distinct constants that are not distinguished have a first clash. -/
theorem exists_firstClash (hn : constants.Nodup) (h : ¬rules.Distinguishes constants) :
    ∃ before late owner, rules.FirstClash constants before late owner := by
  rcases nodup_or_firstClash rules [] constants List.nodup_nil with hd | hc
  · exact absurd ((distinguishes_iff hn).mpr hd) h
  · exact hc

/-- Distinguished constants all get their entries. -/
theorem collect_of_distinguishes (words : ReservedWords) (hn : constants.Nodup)
    (h : rules.Distinguishes constants) :
    rules.collect words Owners.empty constants =
      ⟨(rules.survivors constants).map (rules.entry words), rules.skipped constants, none⟩ := by
  have hd : ((rules.survivors ([] ++ constants)).map rules.identify).Nodup :=
    (distinguishes_iff hn).mp h
  obtain ⟨after, -, hrun⟩ := collect_append words rules.owned_empty hd
  have hall := hrun []
  simpa only [List.append_nil, collect] using hall

/-- The work on constants with a clash ends at the constant that comes too late, with the warnings
before it. -/
theorem collect_of_firstClash (words : ReservedWords) (hn : constants.Nodup)
    {before : List String} {late owner : String}
    (h : rules.FirstClash constants before late owner) :
    rules.collect words Owners.empty constants =
      ⟨(rules.survivors before).map (rules.entry words), rules.skipped before,
        some ⟨rules.identify late, late, owner⟩⟩ := by
  obtain ⟨after, rfl⟩ := id h.split
  have hd : ((rules.survivors ([] ++ before)).map rules.identify).Nodup := h.first
  obtain ⟨owners, howned, hrun⟩ := collect_append words rules.owned_empty hd
  have hend := collect_of_taken words howned h.late_survives h.owner_mem h.same
    (h.owner_ne hn) after
  rw [hrun, hend, List.append_nil, List.append_nil]

/-- A header whose surviving constants are distinguished has one entry for each of them. -/
theorem entriesOf_of_distinguishes (words : ReservedWords) {header : String}
    (h : rules.Distinguishes (Header.scan header).constants) :
    rules.entriesOf words header =
      .ok ⟨(rules.survivors (Header.scan header).constants).map (rules.entry words),
        (Header.scan header).warnings ++ rules.skipped (Header.scan header).constants⟩ := by
  rw [entriesOf, collect_of_distinguishes words (Header.nodup_constants header) h]

/-- A header whose constants have a first clash gives a collision. -/
theorem entriesOf_of_firstClash (words : ReservedWords) {header : String} {before : List String}
    {late owner : String}
    (h : rules.FirstClash (Header.scan header).constants before late owner) :
    rules.entriesOf words header =
      .error ⟨⟨rules.identify late, late, owner⟩,
        (Header.scan header).warnings ++ rules.skipped before⟩ := by
  rw [entriesOf, collect_of_firstClash words (Header.nodup_constants header) h]

/-- A header that has entries has distinguished constants, and one entry for each surviving one. -/
theorem entriesOf_eq_ok {words : ReservedWords} {header : String} {found : Entries}
    (h : rules.entriesOf words header = .ok found) :
    rules.Distinguishes (Header.scan header).constants ∧
      found = ⟨(rules.survivors (Header.scan header).constants).map (rules.entry words),
        (Header.scan header).warnings ++ rules.skipped (Header.scan header).constants⟩ := by
  by_cases hd : rules.Distinguishes (Header.scan header).constants
  · rw [entriesOf_of_distinguishes words hd] at h
    exact ⟨hd, (Except.ok.inj h).symm⟩
  · obtain ⟨before, late, owner, hc⟩ := exists_firstClash (Header.nodup_constants header) hd
    rw [entriesOf_of_firstClash words hc] at h
    contradiction

/-- A header that has a collision has the first clash of its constants. -/
theorem entriesOf_eq_error {words : ReservedWords} {header : String} {clash : Clash}
    (h : rules.entriesOf words header = .error clash) :
    ∃ before late owner,
      rules.FirstClash (Header.scan header).constants before late owner ∧
        clash = ⟨⟨rules.identify late, late, owner⟩,
          (Header.scan header).warnings ++ rules.skipped before⟩ := by
  by_cases hd : rules.Distinguishes (Header.scan header).constants
  · rw [entriesOf_of_distinguishes words hd] at h
    contradiction
  · obtain ⟨before, late, owner, hc⟩ := exists_firstClash (Header.nodup_constants header) hd
    rw [entriesOf_of_firstClash words hc] at h
    exact ⟨before, late, owner, hc, (Except.error.inj h).symm⟩

/-- The exact outcome for a header. It has entries just when different surviving constants have
different identifiers; these are then one for each surviving constant, in order, and the warnings
are those of the scan and one for each constant of which nothing is left. It has a collision just
when there is a first clash, which is the one reported, with the warnings of the scan and those
about the constants before it. -/
theorem entriesOf_outcome (rules : Rules) (words : ReservedWords) (header : String) :
    (∀ entries, rules.entriesOf words header = .ok entries ↔
      rules.Distinguishes (Header.scan header).constants ∧
        entries = ⟨(rules.survivors (Header.scan header).constants).map (rules.entry words),
          (Header.scan header).warnings ++ rules.skipped (Header.scan header).constants⟩) ∧
    (∀ clash, rules.entriesOf words header = .error clash ↔
      ∃ before late owner,
        rules.FirstClash (Header.scan header).constants before late owner ∧
          clash = ⟨⟨rules.identify late, late, owner⟩,
            (Header.scan header).warnings ++ rules.skipped before⟩) ∧
    ∀ constant, (Warning.emptied constant).message =
      "Skipping " ++ constant ++ ": name is empty after dropping prefix/suffix" := by
  have hn := Header.nodup_constants header
  by_cases hd : rules.Distinguishes (Header.scan header).constants
  · refine ⟨fun entries => ?_, fun clash => ?_, fun constant => rfl⟩
    · rw [entriesOf_of_distinguishes words hd, Except.ok.injEq]
      exact ⟨fun h => ⟨hd, h.symm⟩, fun h => h.2.symm⟩
    · rw [entriesOf_of_distinguishes words hd]
      constructor
      · intro h
        contradiction
      · rintro ⟨before, late, owner, hc, -⟩
        exact absurd hd (hc.not_distinguishes hn)
  · obtain ⟨before, late, owner, hc⟩ := exists_firstClash hn hd
    refine ⟨fun entries => ?_, fun clash => ?_, fun constant => rfl⟩
    · rw [entriesOf_of_firstClash words hc]
      constructor
      · intro h
        contradiction
      · exact fun h => absurd h.1 hd
    · constructor
      · intro h
        rw [entriesOf_of_firstClash words hc, Except.error.injEq] at h
        exact ⟨before, late, owner, hc, h.symm⟩
      · rintro ⟨earlier, second, first, hs, rfl⟩
        exact entriesOf_of_firstClash words hs

end Rules

end HeaderEnum.Naming
