import HeaderEnum.Swift.Source

/-!
# Acceptance of built declarations

The declaration built from entries has no raw type, and each case has one name without values and
one value marker with one plain argument. The only objection left is an empty constant, so a file is
written for every list of entries that names its constants.
-/

namespace HeaderEnum.Swift

/-- The marker of a built case is its only value marker. -/
theorem valueMarkers_ofEntry (entry : Naming.Entry) :
    (CaseDeclaration.ofEntry entry).valueMarkers =
      [{ name := valueMarker, arguments := [{ expression := entry.constant }] }] := by
  simp [CaseDeclaration.valueMarkers, CaseDeclaration.ofEntry]

/-- A built case is refused for an empty constant only. -/
theorem problem?_ofEntry (entry : Naming.Entry) :
    (CaseDeclaration.ofEntry entry).problem? =
      if entry.constant = "" then some .invalidArguments else none := by
  have hm := valueMarkers_ofEntry entry
  have he : (CaseDeclaration.ofEntry entry).elements = [{ name := entry.identifier }] := rfl
  rw [CaseDeclaration.problem?]
  simp only [he, hm, Bool.false_eq_true, if_false, Option.isSome_none, Marker.problem?]

/-- A declaration is accepted when nothing speaks against it. -/
theorem EnumDeclaration.validate_eq_ok_iff {declaration : EnumDeclaration} :
    declaration.validate = .ok () ↔ declaration.problems = [] := by
  rw [EnumDeclaration.validate]
  cases declaration.problems with
  | nil => simp
  | cons first others => simp

/-- A built declaration is accepted exactly when no constant is empty. -/
theorem validate_ofEntries_iff (name : String) (entries : List Naming.Entry)
    (access : Option String) :
    (EnumDeclaration.ofEntries name entries access).validate = .ok () ↔
      ∀ entry ∈ entries, entry.constant ≠ "" := by
  have hp : (EnumDeclaration.ofEntries name entries access).problems =
      entries.filterMap fun entry => (CaseDeclaration.ofEntry entry).problem? := by
    rw [EnumDeclaration.problems]
    simp only [EnumDeclaration.ofEntries, List.isEmpty_nil, if_true, List.filterMap_map]
    rfl
  rw [EnumDeclaration.validate_eq_ok_iff, hp, List.filterMap_eq_nil_iff]
  simp only [problem?_ofEntry, ite_eq_right_iff, reduceCtorEq, imp_false, ne_eq]

/-- An accepted declaration has an extension. -/
theorem expand_of_validate {declaration : EnumDeclaration}
    (h : declaration.validate = .ok ()) : ∃ text, declaration.expand = .ok text := by
  rw [EnumDeclaration.expand, h]
  exact ⟨_, rfl⟩

/-- Every layout writes a file for entries whose constants are not empty. -/
theorem emit_of_constants (layout : Layout) {entries : List Naming.Entry}
    (h : ∀ entry ∈ entries, entry.constant ≠ "") : ∃ text, layout.emit entries = .ok text := by
  have hv : (layout.declaration entries).validate = .ok () :=
    (validate_ofEntries_iff layout.enumName entries layout.access).mpr h
  obtain ⟨extensionText, he⟩ := expand_of_validate hv
  rw [Layout.emit]
  simp only [hv]
  cases layout.expand with
  | false => exact ⟨_, rfl⟩
  | true =>
    simp only [he]
    exact ⟨_, rfl⟩

end HeaderEnum.Swift
