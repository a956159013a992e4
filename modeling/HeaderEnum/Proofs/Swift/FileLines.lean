import HeaderEnum.Proofs.Swift.Acceptance
import HeaderEnum.Proofs.Text.Lines
import HeaderEnum.Settings.Settings

/-!
# The lines of a file

What stands on the lines of a written file, told by its layout and its entries alone. The head ends
with the line that opens the enum and does not depend on the entries; the body below it holds the
cases and, in the expanded form, the extension. A file is written exactly for entries whose
constants are not empty, and it is its head above its body. When no text that goes into it holds a
line feed, these are also the lines that it is cut into.
-/

namespace HeaderEnum.Swift

open Text (joinLines OnOneLine onOneLine_append)

/-- The line of the marker for a constant. -/
def markerLine (constant : String) : String :=
  indented 1 ("@" ++ valueMarker ++ "(" ++ constant ++ ")")

/-- The line of a case, whose access level is written before it. -/
def caseLine (member name : String) : String := indented 1 (member ++ "case " ++ name)

/-- An access level with a space after it, as it stands before an enum. -/
def accessText (access : Option String) : String :=
  match access with
  | none => ""
  | some level => if level = "" then "" else level ++ " "

/-- The case name and the constant of an entry. -/
def armOf (entry : Naming.Entry) : String × String := (entry.identifier, entry.constant)

/-- What is moved to the right with a text is what would be written after it. -/
theorem indented_append (steps : Nat) (first second : String) :
    indented steps (first ++ second) = indented steps first ++ second := by
  simp only [indented, String.append_assoc]

/-- Blocks below the first one follow it after an empty line. -/
theorem spaced_cons {first : List String} {rest : List (List String)} (h : rest ≠ []) :
    spaced (first :: rest) = first ++ [""] ++ spaced rest := by
  cases rest with
  | nil => exact absurd rfl h
  | cons second others => rfl

/-- The access level of members is none, or one of the two that reach beyond the module. -/
theorem memberAccess_cases (access : Option String) :
    memberAccess access = "" ∨ memberAccess access = "public " ∨
      memberAccess access = "package " := by
  cases access with
  | none => exact .inl rfl
  | some level =>
    by_cases hpublic : level = "public"
    · exact .inr (.inl (by rw [hpublic]; rfl))
    · by_cases hpackage : level = "package"
      · exact .inr (.inr (by rw [hpackage]; rfl))
      · exact .inl (by simp [memberAccess, hpublic, hpackage])

namespace Layout

/-- The access level that the members of the enum repeat. -/
def member (layout : Layout) : String := memberAccess layout.access

/-- The line that opens the enum. -/
def opening (layout : Layout) : String :=
  accessText layout.access ++ "enum " ++ layout.enumName ++ " \x7b"

/-- The line of the marker before an enum that is to be expanded. -/
def enumMarkerLines (layout : Layout) : List String :=
  if layout.expand then [] else ["@" ++ rawValuesMarker]

/-- All lines down to the one that opens the enum. -/
def headLines (layout : Layout) : List String :=
  [headline] ++ layout.importLines ++ [""] ++ layout.enumMarkerLines ++ [layout.opening]

/-- The cases with their markers, and the end of the file. -/
def markedLines (layout : Layout) (entries : List Naming.Entry) : List String :=
  spaced (entries.map fun entry =>
    [markerLine entry.constant, caseLine layout.member entry.identifier]) ++ ["\x7d", ""]

/-- The extension after an empty line, unless there are no entries. -/
def belowCases (layout : Layout) (entries : List Naming.Entry) : List String :=
  if entries = [] then []
  else "" :: extensionLines layout.enumName layout.access (entries.map armOf)

/-- The cases, the extension, and the end of the file. -/
def plainLines (layout : Layout) (entries : List Naming.Entry) : List String :=
  entries.map (fun entry => caseLine layout.member entry.identifier) ++ ["\x7d"]
    ++ layout.belowCases entries ++ [""]

/-- All lines below the one that opens the enum. -/
def bodyLines (layout : Layout) (entries : List Naming.Entry) : List String :=
  if layout.expand then layout.plainLines entries else layout.markedLines entries

/-- The head is not empty. -/
theorem headLines_ne_nil (layout : Layout) : layout.headLines ≠ [] :=
  List.append_ne_nil_of_right_ne_nil _ (List.cons_ne_nil _ _)

/-- The body is not empty. -/
theorem bodyLines_ne_nil (layout : Layout) (entries : List Naming.Entry) :
    layout.bodyLines entries ≠ [] := by
  rw [bodyLines]
  split
  · exact List.append_ne_nil_of_right_ne_nil _ (List.cons_ne_nil _ _)
  · exact List.append_ne_nil_of_right_ne_nil _ (List.cons_ne_nil _ _)

/-! ## The two forms of the enum -/

/-- The enum with markers is its marker, its opening line and its marked cases. -/
theorem annotatedLines_declaration (layout : Layout) (entries : List Naming.Entry)
    (h : layout.expand = false) :
    (layout.declaration entries).annotatedLines ++ [""] =
      layout.enumMarkerLines ++ [layout.opening] ++ layout.markedLines entries := by
  have hcases : (layout.declaration entries).cases.map
      (·.annotatedLines (layout.declaration entries).access) =
        entries.map fun entry =>
          [markerLine entry.constant, caseLine layout.member entry.identifier] := by
    simp only [declaration, EnumDeclaration.ofEntries, List.map_map]
    refine List.map_congr_left fun entry _ => ?_
    rfl
  rw [EnumDeclaration.annotatedLines, hcases, markedLines, enumMarkerLines, h]
  simp only [List.append_assoc, List.cons_append, List.nil_append, Bool.false_eq_true, if_false]
  rfl

/-- The enum without markers is its opening line and its cases. -/
theorem plainLines_declaration (layout : Layout) (entries : List Naming.Entry) :
    (layout.declaration entries).plainLines =
      [layout.opening] ++ entries.map (fun entry => caseLine layout.member entry.identifier)
        ++ ["\x7d"] := by
  simp only [EnumDeclaration.plainLines, declaration, EnumDeclaration.ofEntries, List.map_map]
  rfl

/-- The arms of a built enum are the pairs of its entries. -/
theorem filterMap_arm?_ofEntries (entries : List Naming.Entry) :
    (entries.map CaseDeclaration.ofEntry).filterMap CaseDeclaration.arm? = entries.map armOf := by
  rw [List.filterMap_map, ← List.filterMap_eq_map]
  refine List.filterMap_congr fun entry _ => ?_
  have hm := valueMarkers_ofEntry entry
  simp only [Function.comp_apply, CaseDeclaration.arm?, CaseDeclaration.valueExpression, hm]
  rfl

/-- The text of an extension is not empty. -/
theorem joinLines_extensionLines_ne_empty (name : String) (access : Option String)
    (arms : List (String × String)) : joinLines (extensionLines name access arms) ≠ "" := by
  intro h
  have hl := congrArg String.length h
  simp only [extensionLines, List.cons_append, List.append_assoc] at hl
  rw [Text.joinLines_cons (List.cons_ne_nil _ _)] at hl
  simp at hl

/-- The extension of an accepted enum stands below it as lines of its own. -/
theorem joinLines_belowEnum (layout : Layout) {entries : List Naming.Entry}
    (h : (layout.declaration entries).validate = .ok ()) (above : List String)
    {below : List String} (hb : below ≠ []) :
    ∃ text, (layout.declaration entries).expand = .ok text ∧
      joinLines (above ++ belowEnum text ++ below) =
        joinLines (above ++ layout.belowCases entries ++ below) := by
  have harms : (layout.declaration entries).cases.filterMap CaseDeclaration.arm? =
      entries.map armOf := filterMap_arm?_ofEntries entries
  rw [EnumDeclaration.expand, h, harms]
  cases entries with
  | nil => exact ⟨"", rfl, rfl⟩
  | cons first rest =>
    refine ⟨joinLines (extensionLines layout.enumName layout.access ((first :: rest).map armOf)),
      rfl, ?_⟩
    have hne := joinLines_extensionLines_ne_empty layout.enumName layout.access
      ((first :: rest).map armOf)
    have hlines : extensionLines layout.enumName layout.access ((first :: rest).map armOf) ≠ [] :=
      List.cons_ne_nil _ _
    have hjoin := Text.joinLines_joinLines (above ++ [""]) hlines hb
    rw [belowEnum, if_neg hne, belowCases, if_neg (List.cons_ne_nil first rest)]
    simpa only [List.append_assoc, List.cons_append, List.nil_append] using hjoin

end Layout

/-! ## One line each -/

/-- No access level, and each of the known ones. -/
def accessChoices : List (Option String) := none :: Settings.accessLevels.map some

/-- Both texts of an entry stand on one line each. -/
def EntryOnLines (entry : Naming.Entry) : Prop :=
  OnOneLine entry.constant ∧ OnOneLine entry.identifier

/-- What is moved to the right stands on one line exactly when the line does. -/
@[simp] theorem onOneLine_indented {steps : Nat} {line : String} :
    OnOneLine (indented steps line) ↔ OnOneLine line := by
  have hblank : OnOneLine (String.ofList (List.replicate (2 * steps) ' ')) := by
    rw [OnOneLine, String.toList_ofList]
    intro h
    exact absurd (List.eq_of_mem_replicate h) (by decide)
  rw [indented, onOneLine_append]
  exact and_iff_right hblank

/-- The access level of members stands on one line. -/
theorem onOneLine_memberAccess (access : Option String) : OnOneLine (memberAccess access) := by
  rcases memberAccess_cases access with h | h | h <;> rw [h] <;> decide

/-- The line of a case whose name stands on one line. -/
theorem onOneLine_caseLine (access : Option String) {name : String} (h : OnOneLine name) :
    OnOneLine (caseLine (memberAccess access) name) := by
  simp only [caseLine, onOneLine_indented, onOneLine_append]
  exact ⟨⟨onOneLine_memberAccess access, by decide⟩, h⟩

/-- What stands among spaced blocks is an empty line or a line of a block. -/
theorem mem_spaced {blocks : List (List String)} {line : String} (h : line ∈ spaced blocks) :
    line = "" ∨ ∃ block ∈ blocks, line ∈ block := by
  induction blocks with
  | nil => exact absurd h List.not_mem_nil
  | cons first rest ih =>
    cases rest with
    | nil => exact .inr ⟨first, List.mem_cons_self, h⟩
    | cons second others =>
      rw [spaced_cons (List.cons_ne_nil second others), List.append_assoc] at h
      rcases List.mem_append.mp h with h | h
      · exact .inr ⟨first, List.mem_cons_self, h⟩
      · rcases List.mem_cons.mp h with h | h
        · exact .inl h
        · rcases ih h with he | ⟨block, hb, hl⟩
          · exact .inl he
          · exact .inr ⟨block, List.mem_cons_of_mem first hb, hl⟩

/-- The arms of a switch whose two texts stand on one line each are made of lines. -/
theorem arms_onOneLine {entries : List Naming.Entry} {upper lower : Naming.Entry → String}
    (h : ∀ entry ∈ entries, OnOneLine (upper entry) ∧ OnOneLine (lower entry)) :
    ∀ line ∈ entries.flatMap fun entry => [upper entry, lower entry], OnOneLine line := by
  intro line hl
  obtain ⟨entry, hm, hl⟩ := List.mem_flatMap.mp hl
  rcases List.mem_pair.mp hl with rfl | rfl
  · exact (h entry hm).1
  · exact (h entry hm).2

/-- The extension for entries on lines is made of lines. -/
theorem extensionLines_onOneLine {enumName : String} (hname : OnOneLine enumName)
    (access : Option String) {entries : List Naming.Entry}
    (h : ∀ entry ∈ entries, EntryOnLines entry) :
    ∀ line ∈ extensionLines enumName access (entries.map armOf), OnOneLine line := by
  have hmember := onOneLine_memberAccess access
  have hfrom : ∀ line ∈ armsFromConstant (entries.map armOf), OnOneLine line := by
    rw [armsFromConstant, List.flatMap_map]
    refine arms_onOneLine fun entry hm => ?_
    simp only [onOneLine_indented, onOneLine_append]
    exact ⟨⟨⟨by decide, (h entry hm).1⟩, by decide⟩, by decide, (h entry hm).2⟩
  have hto : ∀ line ∈ armsFromCase (entries.map armOf), OnOneLine line := by
    rw [armsFromCase, List.flatMap_map]
    refine arms_onOneLine fun entry hm => ?_
    simp only [onOneLine_indented, onOneLine_append]
    exact ⟨⟨⟨by decide, (h entry hm).2⟩, by decide⟩, by decide, (h entry hm).1⟩
  have hliteral : ∀ text ∈ ["extension ", ": RawRepresentable \x7b", "typealias RawValue = String",
      "init?(rawValue: String) \x7b", "switch rawValue \x7b", "default:", "return nil", "\x7d", "",
      "var rawValue: String \x7b", "switch self \x7b"], OnOneLine text := by decide
  simp only [List.forall_mem_cons] at hliteral
  simp only [extensionLines, List.forall_mem_append, List.forall_mem_cons, onOneLine_indented,
    onOneLine_append, hname, hmember, hliteral, and_true, true_and, List.not_mem_nil, false_implies,
    implies_true]
  exact ⟨hfrom, hto⟩

namespace Layout

/-- Every text of the layout stands on one line, and its access level is a known one. -/
structure OnLines (layout : Layout) : Prop where
  /-- The name of the enum stands on one line. -/
  enumName : OnOneLine layout.enumName
  /-- The access level, if there is one, is known. -/
  access : layout.access ∈ accessChoices
  /-- Every module to import stands on one line. -/
  imports : ∀ name ∈ layout.imports, OnOneLine name
  /-- The module of the markers stands on one line. -/
  supportModule : OnOneLine layout.supportModule

/-- The access level before an enum stands on one line. -/
theorem OnLines.onOneLine_accessText {layout : Layout} (h : layout.OnLines) :
    OnOneLine (accessText layout.access) := by
  have hchoices : ∀ access ∈ accessChoices, OnOneLine (accessText access) := by decide
  exact hchoices layout.access h.access

/-- The head of a layout whose texts stand on one line each is made of lines. -/
theorem OnLines.onOneLine_headLines {layout : Layout} (h : layout.OnLines) :
    ∀ line ∈ layout.headLines, OnOneLine line := by
  have hheadline : OnOneLine headline := by decide
  have himports : ∀ line ∈ layout.importLines, OnOneLine line := by
    intro line hl
    obtain ⟨name, hm, rfl⟩ := List.mem_map.mp hl
    have hname : OnOneLine name := by
      rcases List.mem_append.mp hm with hm | hm
      · exact h.imports name hm
      · cases he : layout.expand with
        | true => simp [he] at hm
        | false =>
          rw [he] at hm
          rw [List.mem_singleton.mp hm]
          exact h.supportModule
    exact onOneLine_append.mpr ⟨by decide, hname⟩
  have hmarker : ∀ line ∈ layout.enumMarkerLines, OnOneLine line := by
    rw [enumMarkerLines]
    cases layout.expand <;> decide
  have hopening : OnOneLine layout.opening := by
    simp only [opening, onOneLine_append]
    exact ⟨⟨⟨h.onOneLine_accessText, by decide⟩, h.enumName⟩, by decide⟩
  simp only [headLines, List.forall_mem_append, List.forall_mem_singleton]
  exact ⟨⟨⟨⟨hheadline, himports⟩, by decide⟩, hmarker⟩, hopening⟩

/-- The marked cases of entries on lines are made of lines. -/
theorem markedLines_onOneLine (layout : Layout) {entries : List Naming.Entry}
    (h : ∀ entry ∈ entries, EntryOnLines entry) :
    ∀ line ∈ layout.markedLines entries, OnOneLine line := by
  rw [markedLines, List.forall_mem_append]
  refine ⟨fun line hl => ?_, by decide⟩
  rcases mem_spaced hl with rfl | ⟨block, hb, hl⟩
  · decide
  · obtain ⟨entry, hm, rfl⟩ := List.mem_map.mp hb
    have hmarker : OnOneLine (markerLine entry.constant) := by
      simp only [markerLine, onOneLine_indented, onOneLine_append]
      exact ⟨⟨by decide, (h entry hm).1⟩, by decide⟩
    have hcase : OnOneLine (caseLine layout.member entry.identifier) :=
      onOneLine_caseLine layout.access (h entry hm).2
    rcases List.mem_pair.mp hl with rfl | rfl
    · exact hmarker
    · exact hcase

/-- The cases and the extension of entries on lines are made of lines. -/
theorem plainLines_onOneLine (layout : Layout) (hname : OnOneLine layout.enumName)
    {entries : List Naming.Entry} (h : ∀ entry ∈ entries, EntryOnLines entry) :
    ∀ line ∈ layout.plainLines entries, OnOneLine line := by
  have hcases : ∀ line ∈ entries.map (fun entry => caseLine layout.member entry.identifier),
      OnOneLine line := by
    rw [List.forall_mem_map]
    exact fun entry hm => onOneLine_caseLine layout.access (h entry hm).2
  have hbelow : ∀ line ∈ layout.belowCases entries, OnOneLine line := by
    rw [belowCases]
    split
    · exact List.forall_mem_nil _
    · exact List.forall_mem_cons.mpr ⟨by decide, extensionLines_onOneLine hname layout.access h⟩
  simp only [plainLines, List.forall_mem_append]
  exact ⟨⟨⟨hcases, by decide⟩, hbelow⟩, by decide⟩

/-- The body is made of lines in both forms. -/
theorem bodyLines_onOneLine (layout : Layout) (hname : OnOneLine layout.enumName)
    {entries : List Naming.Entry} (h : ∀ entry ∈ entries, EntryOnLines entry) :
    ∀ line ∈ layout.bodyLines entries, OnOneLine line := by
  rw [bodyLines]
  split
  · exact layout.plainLines_onOneLine hname h
  · exact layout.markedLines_onOneLine h

/-! ## The whole file -/

/-- A file is written exactly when no constant is empty, and then it is its head above its body. -/
theorem emit_eq_ok_iff (layout : Layout) (entries : List Naming.Entry) (text : String) :
    layout.emit entries = .ok text ↔
      (∀ entry ∈ entries, entry.constant ≠ "") ∧
        text = joinLines (layout.headLines ++ layout.bodyLines entries) := by
  have hv : (layout.declaration entries).validate = .ok () ↔
      ∀ entry ∈ entries, entry.constant ≠ "" :=
    validate_ofEntries_iff layout.enumName entries layout.access
  rw [← hv, emit]
  cases hc : (layout.declaration entries).validate with
  | error problem => simp [bind, Except.bind]
  | ok done =>
    cases he : layout.expand with
    | false =>
      have hlines := annotatedLines_declaration layout entries he
      simp only [bind, Except.bind, pure, Except.pure, Bool.false_eq_true, if_false,
        Except.ok.injEq, true_and, List.append_assoc, hlines, headLines, bodyLines, he]
      exact eq_comm
    | true =>
      obtain ⟨extensionText, hx, hjoin⟩ := joinLines_belowEnum layout hc
        ([headline] ++ layout.importLines ++ [""] ++ (layout.declaration entries).plainLines)
        (List.cons_ne_nil "" [])
      have hplain := plainLines_declaration layout entries
      simp only [List.append_assoc] at hjoin
      simp only [bind, Except.bind, pure, Except.pure, if_true, hx, Except.ok.injEq, true_and,
        List.append_assoc, hjoin]
      simp only [hplain, headLines, bodyLines, he, if_true, plainLines, enumMarkerLines,
        List.append_assoc, List.nil_append]
      exact eq_comm

/-- The lines of a file whose texts stand on one line each are those that were written. -/
theorem OnLines.lines_of_emit {layout : Layout} (hl : layout.OnLines) {entries : List Naming.Entry}
    (h : ∀ entry ∈ entries, EntryOnLines entry) {text : String}
    (ht : layout.emit entries = .ok text) :
    Text.lines text = layout.headLines ++ layout.bodyLines entries := by
  have hall : ∀ line ∈ layout.headLines ++ layout.bodyLines entries, OnOneLine line :=
    List.forall_mem_append.mpr
      ⟨hl.onOneLine_headLines, layout.bodyLines_onOneLine hl.enumName h⟩
  have hne : layout.headLines ++ layout.bodyLines entries ≠ [] :=
    List.append_ne_nil_of_left_ne_nil layout.headLines_ne_nil _
  obtain ⟨-, rfl⟩ := (layout.emit_eq_ok_iff entries text).mp ht
  exact Text.lines_joinLines hne hall

end Layout

end HeaderEnum.Swift
