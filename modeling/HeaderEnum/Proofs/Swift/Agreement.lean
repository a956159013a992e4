import HeaderEnum.Proofs.Swift.FileLines
import Mathlib.Data.List.Forall2

/-!
# The checker and the expansion agree

A case is acceptable when it declares one name, with neither values nor a raw value, and its marker
gives a constant that is not empty. The checker has one objection to each case that is not, and none
to an enum of acceptable cases without a raw type. The expansion fails with the first objection or
writes one arm for each case, so nothing that it needs is missing when it starts to write.
-/

namespace HeaderEnum.Swift

namespace CaseDeclaration

/-- A case that the expansion can write: its one name and its constant. -/
structure IsArm (declaration : CaseDeclaration) (arm : String × String) : Prop where
  /-- It declares that name alone, with neither values nor a raw value. -/
  elements : declaration.elements = [{ name := arm.1 }]
  /-- Its marker gives that constant. -/
  constant : declaration.valueExpression = some arm.2
  /-- The constant is not empty. -/
  named : arm.2 ≠ ""

/-- The expansion can write the case. -/
def IsAcceptable (declaration : CaseDeclaration) : Prop := ∃ arm, declaration.IsArm arm

end CaseDeclaration

/-! ## One case -/

/-- A marker is right when it has one argument, without a label and not empty. -/
theorem Marker.problem?_eq_none_iff {marker : Marker} :
    marker.problem? = none ↔
      ∃ constant, marker.arguments = [{ expression := constant }] ∧ constant ≠ "" := by
  unfold Marker.problem?
  split
  · rename_i expression he
    simp [he]
  · rename_i hne
    simp only [reduceCtorEq, false_iff, not_exists, not_and]
    intro constant he
    exact absurd he (hne constant)

namespace CaseDeclaration

variable {declaration : CaseDeclaration}

/-- The constant of a case is the argument of its one value marker. -/
theorem valueExpression_eq_some_iff {constant : String} :
    declaration.valueExpression = some constant ↔
      ∃ marker, declaration.valueMarkers = [marker] ∧
        marker.arguments = [{ expression := constant }] := by
  unfold valueExpression
  split
  · rename_i name expression he
    simp [he]
  · rename_i hne
    simp only [reduceCtorEq, false_iff, not_exists, not_and]
    rintro ⟨name, arguments⟩ hm rfl
    exact hne name constant hm

/-- Nothing is wrong with a case exactly when it is acceptable. -/
theorem problem?_eq_none_iff : declaration.problem? = none ↔ declaration.IsAcceptable := by
  constructor
  · intro h
    unfold problem? at h
    split at h
    · rename_i element he
      split at h
      · contradiction
      · rename_i hvalues
        split at h
        · contradiction
        · rename_i hraw
          split at h
          · contradiction
          · rename_i marker hm
            obtain ⟨constant, ha, hne⟩ := Marker.problem?_eq_none_iff.mp h
            refine ⟨(element.name, constant), ?_, ?_, hne⟩
            · obtain ⟨name, values, raw⟩ := element
              have hfalse : values = false := Bool.eq_false_iff.mpr hvalues
              have hnone : raw = none := Option.not_isSome_iff_eq_none.mp hraw
              rw [he, hfalse, hnone]
            · exact valueExpression_eq_some_iff.mpr ⟨marker, hm, ha⟩
          · contradiction
    · contradiction
  · rintro ⟨⟨name, constant⟩, he, hv, hne⟩
    obtain ⟨marker, hm, ha⟩ := valueExpression_eq_some_iff.mp hv
    have hright : marker.problem? = none := Marker.problem?_eq_none_iff.mpr ⟨constant, ha, hne⟩
    simp [problem?, he, hm, hright]

/-- Whether a case is acceptable can be decided by the checker. -/
instance (declaration : CaseDeclaration) : Decidable declaration.IsAcceptable :=
  decidable_of_iff _ problem?_eq_none_iff

/-- A case that can be written is written with its name and its constant. -/
theorem IsArm.arm?_eq {arm : String × String} (h : declaration.IsArm arm) :
    declaration.arm? = some arm := by
  rw [arm?, h.elements, h.constant]

end CaseDeclaration

/-! ## All cases in order -/

/-- When each member of a list gives a value, the values correspond to the members in order. -/
theorem forall₂_filterMap {α β : Type} {R : α → β → Prop} {f : α → Option β} {list : List α}
    (h : ∀ member ∈ list, ∃ value, f member = some value ∧ R member value) :
    List.Forall₂ R list (list.filterMap f) := by
  induction list with
  | nil => exact .nil
  | cons first rest ih =>
    obtain ⟨value, hf, hR⟩ := h first List.mem_cons_self
    rw [List.filterMap_cons_some hf]
    exact .cons hR (ih fun member hm => h member (List.mem_cons_of_mem _ hm))

namespace EnumDeclaration

variable {declaration : EnumDeclaration}

/-- An enum without a raw type has the problems of its cases. -/
theorem problems_of_plain (h : declaration.inheritedTypes = []) :
    declaration.problems = declaration.cases.filterMap CaseDeclaration.problem? := by
  rw [problems, h]
  rfl

/-- An enum with a raw type has that one problem. -/
theorem problems_of_inherited (h : declaration.inheritedTypes ≠ []) :
    declaration.problems = [.rawType] := by
  rw [problems, if_neg (by simpa using h)]

/-- Each case that is not acceptable has one problem, in order. -/
theorem forall₂_problems (h : declaration.inheritedTypes = []) :
    List.Forall₂ (fun member diagnostic => member.problem? = some diagnostic)
      (declaration.cases.filter fun member => ¬member.IsAcceptable) declaration.problems := by
  have hproblems : declaration.problems =
      (declaration.cases.filter fun member => ¬member.IsAcceptable).filterMap
        CaseDeclaration.problem? := by
    rw [problems_of_plain h, List.filterMap_filter]
    refine List.filterMap_congr fun member _ => ?_
    by_cases ha : member.IsAcceptable
    · simp [ha, CaseDeclaration.problem?_eq_none_iff.mpr ha]
    · simp [ha]
  rw [hproblems]
  refine forall₂_filterMap fun member hm => ?_
  have hnot : ¬member.IsAcceptable := by simpa using (List.mem_filter.mp hm).2
  rw [← CaseDeclaration.problem?_eq_none_iff] at hnot
  obtain ⟨diagnostic, hd⟩ := Option.ne_none_iff_exists'.mp hnot
  exact ⟨diagnostic, hd, hd⟩

/-- An enum has no problem exactly when it has no raw type and its cases are acceptable. -/
theorem problems_eq_nil_iff :
    declaration.problems = [] ↔
      declaration.inheritedTypes = [] ∧ ∀ member ∈ declaration.cases, member.IsAcceptable := by
  by_cases h : declaration.inheritedTypes = []
  · rw [problems_of_plain h, List.filterMap_eq_nil_iff]
    simp only [h, true_and, CaseDeclaration.problem?_eq_none_iff]
  · simp [problems_of_inherited h, h]

/-- An enum is refused with its first problem. -/
theorem validate_eq_error_iff {diagnostic : Diagnostic} :
    declaration.validate = .error diagnostic ↔ declaration.problems.head? = some diagnostic := by
  rw [validate]
  cases declaration.problems with
  | nil => simp
  | cons first rest => simp

/-- The expansion fails as the check does. -/
theorem expand_eq_error_iff {diagnostic : Diagnostic} :
    declaration.expand = .error diagnostic ↔ declaration.validate = .error diagnostic := by
  rw [expand]
  cases declaration.validate with
  | error first => simp [bind, Except.bind]
  | ok done => simp [bind, Except.bind, pure, Except.pure]

/-- The expansion of an accepted enum writes one arm for each case, in order. -/
theorem expand_of_problems_eq_nil (h : declaration.problems = []) :
    ∃ arms, List.Forall₂ CaseDeclaration.IsArm declaration.cases arms ∧
      declaration.expand = .ok (if arms = [] then ""
        else Text.joinLines (extensionLines declaration.name declaration.access arms)) := by
  have hcases := (problems_eq_nil_iff.mp h).2
  refine ⟨declaration.cases.filterMap CaseDeclaration.arm?, forall₂_filterMap ?_, ?_⟩
  · -- a case without an arm would be left out, and there is none
    intro member hm
    obtain ⟨arm, harm⟩ := hcases member hm
    exact ⟨arm, harm.arm?_eq, harm⟩
  · rw [expand, validate_eq_ok_iff.mpr h]
    simp only [List.isEmpty_iff]
    rfl

/-- The checker and the expansion agree. An enum has no problem exactly when it has no raw type and
its cases are acceptable; without a raw type each case that is not acceptable has one problem, in
order, and with one that is the only problem. Checking and expanding fail exactly when there is a
problem, both with the first one. Without problems the expansion writes the one name and the
constant of each case, in order, and it is empty exactly when there are no cases. An enum built from
entries has no problem exactly when their constants are not empty. -/
theorem checker_agrees_with_expansion (declaration : EnumDeclaration) :
    (declaration.problems = [] ↔
      declaration.inheritedTypes = [] ∧ ∀ member ∈ declaration.cases, member.IsAcceptable) ∧
    (declaration.inheritedTypes = [] →
      List.Forall₂ (fun member diagnostic => member.problem? = some diagnostic)
        (declaration.cases.filter fun member => ¬member.IsAcceptable) declaration.problems) ∧
    (declaration.inheritedTypes ≠ [] → declaration.problems = [.rawType]) ∧
    (∀ diagnostic,
      (declaration.validate = .error diagnostic ↔
        declaration.problems.head? = some diagnostic) ∧
      (declaration.expand = .error diagnostic ↔
        declaration.problems.head? = some diagnostic)) ∧
    (declaration.problems = [] → ∃ arms text,
      List.Forall₂ CaseDeclaration.IsArm declaration.cases arms ∧
        declaration.expand = .ok text ∧
        text = (if arms = [] then ""
          else Text.joinLines (extensionLines declaration.name declaration.access arms)) ∧
        (text = "" ↔ declaration.cases = [])) ∧
    ∀ name entries access, (ofEntries name entries access).problems = [] ↔
      ∀ entry ∈ entries, entry.constant ≠ "" := by
  refine ⟨problems_eq_nil_iff, forall₂_problems, problems_of_inherited, fun diagnostic => ?_,
    fun h => ?_, fun name entries access => ?_⟩
  · exact ⟨validate_eq_error_iff, expand_eq_error_iff.trans validate_eq_error_iff⟩
  · obtain ⟨arms, harms, he⟩ := expand_of_problems_eq_nil h
    refine ⟨arms, _, harms, he, rfl, ?_⟩
    have hnil : arms = [] ↔ declaration.cases = [] := by
      rw [← List.length_eq_zero_iff, ← harms.length_eq, List.length_eq_zero_iff]
    rw [← hnil]
    split
    · rename_i hempty
      simp [hempty]
    · rename_i hne
      have htext :=
        Layout.joinLines_extensionLines_ne_empty declaration.name declaration.access arms
      simp [hne, htext]
  · rw [← validate_eq_ok_iff, validate_ofEntries_iff]

/-- An accepted enum with a foreign marker, one with two problems, and one with a raw type. -/
theorem checker_agrees_with_expansion_threeEnums :
    let value : Marker := { name := "CEnumValue", arguments := [{ expression := "kA" }] }
    let good : CaseDeclaration :=
      { elements := [{ name := "a" }], markers := [{ name := "x" }, value] }
    let unmarked : CaseDeclaration := { elements := [{ name := "b" }] }
    let accepted : EnumDeclaration := { name := "E", cases := [good] }
    let mixed : EnumDeclaration := { name := "E", cases := [unmarked, good, { elements := [] }] }
    let inherited : EnumDeclaration :=
      { name := "E", inheritedTypes := ["Int"], cases := [unmarked] }
    accepted.problems = [] ∧
      (∃ arms text, List.Forall₂ CaseDeclaration.IsArm accepted.cases arms ∧
        accepted.expand = .ok text ∧
        text = (if arms = [] then ""
          else Text.joinLines (extensionLines accepted.name accepted.access arms)) ∧
        (text = "" ↔ accepted.cases = [])) ∧
      mixed.inheritedTypes = [] ∧ mixed.problems = [.missingValue "b", .multipleElements] ∧
      List.Forall₂ (fun member diagnostic => member.problem? = some diagnostic)
        (mixed.cases.filter fun member => ¬member.IsAcceptable) mixed.problems ∧
      inherited.inheritedTypes ≠ [] ∧ inherited.problems = [.rawType] := by
  intro value good unmarked accepted mixed inherited
  have haccepted : accepted.problems = [] := by decide
  have hinherited : inherited.inheritedTypes ≠ [] := by decide
  obtain ⟨-, -, -, -, hexpands, -⟩ := checker_agrees_with_expansion accepted
  obtain ⟨-, hordered, -⟩ := checker_agrees_with_expansion mixed
  obtain ⟨-, -, honly, -⟩ := checker_agrees_with_expansion inherited
  exact ⟨haccepted, hexpands haccepted, rfl, by decide, hordered rfl, hinherited, honly hinherited⟩

end EnumDeclaration

end HeaderEnum.Swift
