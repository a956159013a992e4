/-!
# Affixes

Dropping the longest listed prefix and then the longest listed suffix of a name. An empty affix
fits every name and drops nothing, so it never matters whether a list holds one.
-/

namespace HeaderEnum.Naming

/-- The longest affix that fits, and the empty one when none does. -/
def longestFitting (fits : List Char → Bool) : List (List Char) → List Char
  | [] => []
  | affix :: others =>
    let best := longestFitting fits others
    if fits affix && best.length ≤ affix.length then affix else best

/-- The longest fitting affix fits, if the empty one does. -/
theorem longestFitting_fits {fits : List Char → Bool} (h : fits [] = true)
    (affixes : List (List Char)) : fits (longestFitting fits affixes) = true := by
  induction affixes with
  | nil => exact h
  | cons affix others ih =>
    simp only [longestFitting]
    split
    · rename_i hs
      simp only [Bool.and_eq_true] at hs
      exact hs.1
    · exact ih

/-- No listed affix that fits is longer. -/
theorem length_le_longestFitting {fits : List Char → Bool} {affixes : List (List Char)}
    {affix : List Char} (h : affix ∈ affixes) (hf : fits affix = true) :
    affix.length ≤ (longestFitting fits affixes).length := by
  induction affixes with
  | nil => simp at h
  | cons first others ih =>
    simp only [longestFitting, Bool.and_eq_true, decide_eq_true_eq]
    rcases List.mem_cons.mp h with rfl | h
    · split
      · exact Nat.le_refl _
      · rename_i hs
        simp only [hf, true_and, Nat.not_le] at hs
        exact Nat.le_of_lt hs
    · split
      · rename_i hs
        exact Nat.le_trans (ih h) hs.2
      · exact ih h

/-- The longest fitting affix is listed or empty. -/
theorem longestFitting_mem (fits : List Char → Bool) (affixes : List (List Char)) :
    longestFitting fits affixes ∈ affixes ∨ longestFitting fits affixes = [] := by
  induction affixes with
  | nil => exact .inr rfl
  | cons affix others ih =>
    simp only [longestFitting]
    split
    · exact .inl List.mem_cons_self
    · exact ih.imp (List.mem_cons_of_mem _) id

/-- A name without its longest listed prefix. -/
def withoutPrefix (prefixes : List (List Char)) (name : List Char) : List Char :=
  name.drop (longestFitting (fun affix => affix.isPrefixOf name) prefixes).length

/-- A name without its longest listed suffix. -/
def withoutSuffix (suffixes : List (List Char)) (name : List Char) : List Char :=
  name.take
    (name.length - (longestFitting (fun affix => affix.isSuffixOf name) suffixes).length)

/-- Drop the longest prefix from the list that the name starts with. -/
def dropPrefix (name : String) (prefixes : List String) : String :=
  String.ofList (withoutPrefix (prefixes.map String.toList) name.toList)

/-- Drop the longest suffix from the list that the name ends with. -/
def dropSuffix (name : String) (suffixes : List String) : String :=
  String.ofList (withoutSuffix (suffixes.map String.toList) name.toList)

/-- Drop the best prefix, then the best suffix of what remains. -/
def dropAffixes (name : String) (prefixes suffixes : List String) : String :=
  dropSuffix (dropPrefix name prefixes) suffixes

end HeaderEnum.Naming
