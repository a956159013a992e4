import HeaderEnum.Proofs.Header.Search

/-!
# Distinct names of a header

The scan of a header parts the names that its grammar gives into first occurrences and later ones.
The constants are the distinct names in the order of their first occurrences, each later occurrence
gives one warning, and together they account for every occurrence once. A header of two parts has the
constants of the first part and then those of the second that are new, and the same names in another
order have the same first and later occurrences in another order.
-/

namespace HeaderEnum.Header

/-- The occurrences that some earlier occurrence repeats, in order. -/
def laterOccurrences (names : List String) : List String :=
  (names.zipIdx.filter fun entry => entry.1 ∈ names.take entry.2).map Prod.fst

/-- The constants are the distinct names that have not been seen. -/
theorem ofNames_constants (seen names : List String) :
    (Scan.ofNames seen names).constants = (names.filter fun name => name ∉ seen).eraseDups := by
  induction names generalizing seen with
  | nil => rfl
  | cons name rest ih =>
    rw [Scan.ofNames]
    by_cases hs : name ∈ seen
    · rw [if_pos hs, ih, List.filter_cons_of_neg (by simpa using hs)]
    · rw [if_neg hs, List.filter_cons_of_pos (by simpa using hs), List.eraseDups_cons,
        List.filter_filter]
      have hf : (fun other => decide (other ∉ name :: seen)) =
          fun other => (!other == name) && decide (other ∉ seen) := by
        funext other
        by_cases ho : other = name
        · simp [ho]
        · simp [ho, beq_eq_false_iff_ne.mpr ho]
      simp only [ih, hf]

/-- The repeated names are the occurrences of names that stand before them, be it among those seen
already. -/
theorem ofNames_repeated (seen before rest : List String)
    (hs : ∀ name, name ∈ seen ↔ name ∈ before) :
    (Scan.ofNames seen rest).repeated =
      ((rest.zipIdx before.length).filter fun entry =>
        entry.1 ∈ (before ++ rest).take entry.2).map Prod.fst := by
  -- the walk over the names moves one of them from the rest to those before it
  induction rest generalizing seen before with
  | nil => rfl
  | cons name rest ih =>
    have hstep : before ++ name :: rest = (before ++ [name]) ++ rest := by simp
    have hlen : before.length + 1 = (before ++ [name]).length := by simp
    have htake : (before ++ name :: rest).take before.length = before := by simp
    rw [Scan.ofNames, List.zipIdx_cons]
    by_cases hm : name ∈ seen
    · have hb : name ∈ before := (hs name).mp hm
      have hs' : ∀ other, other ∈ seen ↔ other ∈ before ++ [name] := by
        intro other
        simp only [List.mem_append, List.mem_singleton, ← hs]
        constructor
        · exact Or.inl
        · rintro (h | rfl)
          · exact h
          · exact hm
      rw [if_pos hm, List.filter_cons_of_pos (by simpa [htake] using hb), List.map_cons, hstep, hlen,
        ← ih seen (before ++ [name]) hs']
    · have hb : name ∉ before := fun h => hm ((hs name).mpr h)
      have hs' : ∀ other, other ∈ name :: seen ↔ other ∈ before ++ [name] := by
        intro other
        simp only [List.mem_append, List.mem_cons, List.not_mem_nil, or_false, hs]
        exact Or.comm
      rw [if_neg hm, List.filter_cons_of_neg (by simpa [htake] using hb), hstep, hlen,
        ← ih (name :: seen) (before ++ [name]) hs']

/-- The constants and the repeated names together are all names, in another order. -/
theorem ofNames_perm (seen names : List String) :
    ((Scan.ofNames seen names).constants ++ (Scan.ofNames seen names).repeated).Perm names := by
  induction names generalizing seen with
  | nil => exact List.Perm.nil
  | cons name rest ih =>
    rw [Scan.ofNames]
    split
    · exact List.perm_middle.trans ((ih seen).cons name)
    · exact (ih (name :: seen)).cons name

/-- Every name is counted once, among the constants or among the repeated names. -/
theorem ofNames_length (seen names : List String) :
    (Scan.ofNames seen names).constants.length + (Scan.ofNames seen names).repeated.length =
      names.length := by
  rw [← List.length_append]
  exact (ofNames_perm seen names).length_eq

/-- A name is among the constants when it occurs and has not been seen. -/
theorem mem_ofNames_constants {seen names : List String} {name : String} :
    name ∈ (Scan.ofNames seen names).constants ↔ name ∈ names ∧ name ∉ seen := by
  rw [ofNames_constants, List.mem_eraseDups, List.mem_filter, decide_eq_true_eq]

/-- No name stands twice among the constants. -/
theorem nodup_ofNames_constants (seen names : List String) :
    (Scan.ofNames seen names).constants.Nodup := by
  induction names generalizing seen with
  | nil => exact List.nodup_nil
  | cons name rest ih =>
    rw [Scan.ofNames]
    split
    · exact ih seen
    · have hm : name ∉ (Scan.ofNames (name :: seen) rest).constants :=
        fun h => (mem_ofNames_constants.mp h).2 List.mem_cons_self
      exact List.nodup_cons.mpr ⟨hm, ih (name :: seen)⟩

/-- The constants of a header are distinct. -/
theorem nodup_constants (header : String) : (scan header).constants.Nodup :=
  nodup_ofNames_constants [] (occurrences header)

/-- The constants of a header are its distinct names, the first occurrence of each. -/
theorem constants_eq_eraseDups (header : String) :
    (scan header).constants = (occurrences header).eraseDups := by
  rw [scan, ofNames_constants, List.filter_eq_self.mpr (by simp)]

/-- Names can be left out before repetitions are, or after it. -/
theorem eraseDups_filter (keeps : String → Bool) (names : List String) :
    (names.filter keeps).eraseDups = names.eraseDups.filter keeps := by
  cases names with
  | nil => rfl
  | cons name rest =>
    have ih := eraseDups_filter keeps (rest.filter fun other => !other == name)
    rw [List.filter_filter] at ih
    rw [List.eraseDups_cons]
    cases hk : keeps name with
    | true =>
      have hswap : (fun other => (!other == name) && keeps other) =
          fun other => keeps other && !other == name := funext fun other => Bool.and_comm _ _
      rw [List.filter_cons_of_pos hk, List.filter_cons_of_pos hk, List.eraseDups_cons, ← ih,
        List.filter_filter, hswap]
    | false =>
      have hk' : ¬keeps name = true := by simp [hk]
      have hsame : (fun other => keeps other && !other == name) = keeps := by
        funext other
        by_cases ho : other = name
        · simp [ho, hk]
        · simp [ho]
      rw [List.filter_cons_of_neg hk', List.filter_cons_of_neg hk', ← ih, hsame]
termination_by names.length
decreasing_by exact Nat.lt_succ_of_le (List.length_filter_le _ _)

/-- The constants of a text that are none of the header before it, in order. -/
def newConstants (header more : String) : List String :=
  (scan more).constants.filter fun constant => constant ∉ (scan header).constants

/-- A header of two parts has the constants of the first one and then the new ones of the second. -/
theorem constants_of_append {whole first second : String}
    (h : occurrences whole = occurrences first ++ occurrences second) :
    (scan whole).constants = (scan first).constants ++ newConstants first second := by
  have hnew : ((occurrences second).removeAll (occurrences first)).eraseDups =
      newConstants first second := by
    rw [newConstants, constants_eq_eraseDups, constants_eq_eraseDups, ← eraseDups_filter]
    congr 1
    refine List.filter_congr fun name _ => ?_
    simp
  rw [constants_eq_eraseDups, h, List.eraseDups_append, hnew, ← constants_eq_eraseDups]

/-- Headers that define the same names equally often have the same constants and the same repeated
names, each in another order. -/
theorem scan_perm {first second : String} (h : (occurrences first).Perm (occurrences second)) :
    (scan first).constants.Perm (scan second).constants ∧
      (scan first).repeated.Perm (scan second).repeated := by
  have hconstants : (scan first).constants.Perm (scan second).constants := by
    refine (List.perm_ext_iff_of_nodup (nodup_constants first) (nodup_constants second)).mpr ?_
    intro name
    have hm : name ∈ occurrences first ↔ name ∈ occurrences second := h.mem_iff
    simp only [scan, mem_ofNames_constants, hm]
  have hfirst := ofNames_perm [] (occurrences first)
  have hsecond := ofNames_perm [] (occurrences second)
  have hall : ((scan first).constants ++ (scan first).repeated).Perm
      ((scan second).constants ++ (scan second).repeated) := hfirst.trans (h.trans hsecond.symm)
  have hafter : ((scan first).constants ++ (scan first).repeated).Perm
      ((scan first).constants ++ (scan second).repeated) :=
    hall.trans (hconstants.symm.append_right _)
  exact ⟨hconstants, (List.perm_append_left_iff _).mp hafter⟩

/-- A name that a header defines is an ASCII identifier. -/
theorem isAsciiIdentifier_of_mem_occurrences {header constant : String}
    (h : constant ∈ occurrences header) : IsAsciiIdentifier constant.toList := by
  rw [occurrences_eq_filterMap] at h
  obtain ⟨name, hn, rfl⟩ := List.mem_map.mp h
  obtain ⟨segment, -, hd⟩ := List.mem_filterMap.mp hn
  obtain ⟨-, -, -, -, -, -, -, -, -, hi⟩ := definedAt?_eq_some_iff.mp hd
  rwa [String.toList_ofList]

/-- A constant of a header is an ASCII identifier. -/
theorem isAsciiIdentifier_of_mem_constants {header constant : String}
    (h : constant ∈ (scan header).constants) : IsAsciiIdentifier constant.toList :=
  isAsciiIdentifier_of_mem_occurrences (mem_ofNames_constants.mp h).1

/-- The repeated names of a header are its later occurrences. -/
theorem repeated_eq_laterOccurrences (header : String) :
    (scan header).repeated = laterOccurrences (occurrences header) := by
  have h := ofNames_repeated [] [] (occurrences header) (by simp)
  rwa [List.nil_append] at h

example : (scan "#define A\n;#define B 1;#define A").repeated = ["A"] := by decide

/-- The scan of a header follows the grammar: there is one list of names that its segments define
and that a search from the left finds; the constants are the distinct ones in the order of first
occurrence, each later occurrence has one warning, in order, and constants and warnings together
count every occurrence once. -/
theorem scan_follows_grammar (header : String) :
    ∃ names, (∀ others, NamesOf (segments header) others ↔ others = names) ∧
      (∀ others, Found true (unified header) others ↔ others = names) ∧
      (scan header).constants = names.eraseDups ∧
      (scan header).warnings.map Warning.message =
        (laterOccurrences names).map (fun name =>
          "Duplicate #define " ++ name ++ " found; keeping first occurrence") ∧
      (scan header).constants.length + (scan header).warnings.length = names.length := by
  have hg : NamesOf (segments header) (occurrences header) := by
    rw [occurrences_eq_filterMap]
    exact namesOf_filterMap _
  have hf : Found true (unified header) (occurrences header) := found_occurrences header
  refine ⟨occurrences header, ?_, ?_, constants_eq_eraseDups header, ?_, ?_⟩
  · intro others
    constructor
    · exact fun h => h.unique hg
    · rintro rfl
      exact hg
  · intro others
    constructor
    · exact fun h => h.unique hf
    · rintro rfl
      exact hf
  · rw [Scan.warnings, List.map_map, repeated_eq_laterOccurrences]
    rfl
  · rw [Scan.warnings, List.length_map]
    exact ofNames_length [] (occurrences header)

end HeaderEnum.Header
