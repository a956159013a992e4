import HeaderEnum.Proofs.Swift.Reading

/-!
# Decoding a file

A decoder for whole files of both forms, which takes a text apart without knowing what it was
written from. It gives back everything that went into the file, so that different inputs are written
differently. This holds for texts that stand on one line each and for the known access levels, and
it is about the text alone: an import in Swift may be written in other ways, too.
-/

namespace HeaderEnum.Swift

open Text (between? between?_eq_some_iff dropPrefix?_append readEach)

/-- What a file says. -/
structure Told where
  /-- The enum is written with its extension. -/
  expand : Bool
  /-- The imported modules, with the one of the markers at the end if there are markers. -/
  modules : List String
  /-- The access level of the enum. -/
  access : Option String
  /-- The name of the enum. -/
  enumName : String
  /-- Constants and case names in order. -/
  pairs : List (String × String)
  deriving DecidableEq, Repr

/-- The module on an import line. -/
def importedModule? (line : String) : Option String := between? "import " "" line

/-- The access level and the name on the line that opens an enum. -/
def readOpening? (line : String) : Option (Option String × String) :=
  accessChoices.findSome? fun access =>
    (between? (accessText access ++ "enum ") " \x7b" line).map (access, ·)

/-- Constants and case names below the line that opens an enum. -/
def readBody? (expand : Bool) (access : Option String) (enumName : String) (body : List String) :
    Option (List (String × String)) :=
  if expand then (readPlain enumName (memberAccess access) body).map (·.fromConstant)
  else readMarked (memberAccess access) body

/-- An enum from the line that opens it to the end of the file. -/
def readEnum? (expand : Bool) (modules : List String) : List String → Option Told
  | opening :: body => do
    let (access, enumName) ← readOpening? opening
    let pairs ← readBody? expand access enumName body
    return ⟨expand, modules, access, enumName, pairs⟩
  | [] => none

/-- A whole file. The marker of the enum tells the two forms apart. -/
def readFile? (text : String) : Option Told := do
  let belowHeadline ← (Text.lines text).dropPrefix? [headline]
  let (modules, belowImports) := readEach importedModule? belowHeadline
  let enumLines ← belowImports.dropPrefix? [""]
  if enumLines.head? = some ("@" ++ rawValuesMarker) then readEnum? false modules enumLines.tail
  else readEnum? true modules enumLines

/-- The modules that a file of a layout imports. -/
def Layout.modules (layout : Layout) : List String :=
  layout.imports ++ if layout.expand then [] else [layout.supportModule]

/-- What a file of a layout should say. -/
def Told.of (layout : Layout) (entries : List Naming.Entry) : Told where
  expand := layout.expand
  modules := layout.modules
  access := layout.access
  enumName := layout.enumName
  pairs := entries.map fun entry => (entry.constant, entry.identifier)

/-! ## The parts of a file -/

/-- The beginning of an opening line under one access level is not that under another one. -/
theorem accessText_prefix_free : ∀ first ∈ accessChoices, ∀ second ∈ accessChoices,
    first ≠ second →
      ¬(accessText first ++ "enum ").toList <+: (accessText second ++ "enum ").toList := by
  decide

/-- The only choice that gives something is found. -/
theorem findSome?_of_unique {α β : Type} {read : α → Option β} {choices : List α} {choice : α}
    {result : β} (hm : choice ∈ choices) (hr : read choice = some result)
    (ho : ∀ other ∈ choices, other ≠ choice → read other = none) :
    choices.findSome? read = some result := by
  induction choices with
  | nil => exact absurd hm List.not_mem_nil
  | cons first rest ih =>
    rw [List.findSome?_cons]
    by_cases he : first = choice
    · rw [he, hr]
    · rw [ho first List.mem_cons_self he]
      exact ih (List.mem_of_ne_of_mem (Ne.symm he) hm) fun other hother =>
        ho other (List.mem_cons_of_mem first hother)

/-- The access level and the name are read from an opening line. -/
theorem readOpening?_opening {layout : Layout} (h : layout.access ∈ accessChoices) :
    readOpening? layout.opening = some (layout.access, layout.enumName) := by
  have hread : between? (accessText layout.access ++ "enum ") " \x7b" layout.opening =
      some layout.enumName := between?_eq_some_iff.mpr rfl
  refine findSome?_of_unique h (by rw [hread]; rfl) fun other hm hne => ?_
  have hnone : between? (accessText other ++ "enum ") " \x7b" layout.opening = none := by
    rw [Layout.opening, String.append_assoc]
    exact Text.between?_append_of_not_prefix (accessText_prefix_free other hm _ h hne)
      (accessText_prefix_free _ h other hm hne.symm)
  rw [hnone]
  rfl

/-- Constants and case names are read from a body. -/
theorem readBody?_bodyLines (layout : Layout) (entries : List Naming.Entry) :
    readBody? layout.expand layout.access layout.enumName (layout.bodyLines entries) =
      some (entries.map fun entry => (entry.constant, entry.identifier)) := by
  cases he : layout.expand with
  | true =>
    have hread := readPlain_plainLines layout entries
    rw [Layout.member] at hread
    rw [readBody?, Layout.bodyLines, he, if_pos rfl, if_pos rfl, hread]
    rfl
  | false =>
    rw [readBody?, Layout.bodyLines, he, if_neg Bool.false_ne_true, if_neg Bool.false_ne_true]
    exact readMarked_markedLines layout entries

/-- An enum is read from its opening line on. -/
theorem readEnum?_opening {layout : Layout} (h : layout.access ∈ accessChoices)
    (entries : List Naming.Entry) (modules : List String) :
    readEnum? layout.expand modules (layout.opening :: layout.bodyLines entries) =
      some { Told.of layout entries with modules := modules } := by
  simp only [readEnum?, readOpening?_opening h, readBody?_bodyLines, Option.bind_eq_bind,
    Option.bind_some]
  rfl

/-- The line that opens an enum is no marker. -/
theorem opening_ne_marker {layout : Layout} (h : layout.access ∈ accessChoices) :
    layout.opening ≠ "@" ++ rawValuesMarker := by
  have hchoices : ∀ access ∈ accessChoices,
      ¬(accessText access ++ "enum ").toList <+: ("@" ++ rawValuesMarker).toList := by decide
  intro he
  refine hchoices layout.access h ?_
  rw [← he, Layout.opening, String.append_assoc]
  exact Text.toList_prefix_append _ _

/-- The decoder gives back what a file was written from. -/
theorem readFile?_of_emit {layout : Layout} (hl : layout.OnLines) {entries : List Naming.Entry}
    (h : ∀ entry ∈ entries, EntryOnLines entry) {text : String}
    (ht : layout.emit entries = .ok text) : readFile? text = some (Told.of layout entries) := by
  have hmodules : ∀ rest, readEach importedModule? (layout.importLines ++ "" :: rest) =
      (layout.modules, "" :: rest) := by
    intro rest
    have hwritten : ∀ name, importedModule? ("import " ++ name) = some name := fun name =>
      between?_eq_some_iff.mpr String.append_empty.symm
    have hstop : importedModule? "" = none := by decide
    have hread := Text.readEach_append hwritten hstop layout.modules rest
    rwa [List.map_id'] at hread
  have hlines : Text.lines text = [headline] ++ (layout.importLines ++ "" ::
      (layout.enumMarkerLines ++ layout.opening :: layout.bodyLines entries)) := by
    rw [hl.lines_of_emit h ht, Layout.headLines]
    simp only [List.append_assoc, List.cons_append, List.nil_append]
  have henum := readEnum?_opening hl.access entries layout.modules
  have hknown : ∀ rest : List String, ("" :: rest).dropPrefix? [""] = some rest :=
    dropPrefix?_append [""]
  rw [readFile?, hlines, dropPrefix?_append]
  simp only [Option.bind_eq_bind, Option.bind_some, hmodules, hknown]
  rw [Layout.enumMarkerLines]
  cases he : layout.expand with
  | true =>
    have hopening : some layout.opening ≠ some ("@" ++ rawValuesMarker) :=
      fun hm => opening_ne_marker hl.access (Option.some.inj hm)
    rw [he] at henum
    rw [if_pos rfl, List.nil_append, List.head?_cons, if_neg hopening]
    exact henum
  | false =>
    rw [he] at henum
    rw [if_neg Bool.false_ne_true, List.cons_append, List.head?_cons, if_pos rfl]
    exact henum

/-- Two files with the same text were written from the same form, name, access level, imports and
entries, and with markers also for the same module of markers. -/
theorem emit_faithful {first second : Layout} (hf : first.OnLines) (hs : second.OnLines)
    {firstEntries secondEntries : List Naming.Entry}
    (hfe : ∀ entry ∈ firstEntries, EntryOnLines entry)
    (hse : ∀ entry ∈ secondEntries, EntryOnLines entry) {text : String}
    (hft : first.emit firstEntries = .ok text) (hst : second.emit secondEntries = .ok text) :
    first.expand = second.expand ∧ first.enumName = second.enumName ∧
      first.access = second.access ∧ first.imports = second.imports ∧
      firstEntries = secondEntries ∧
      (first.expand = false → first.supportModule = second.supportModule) := by
  have htold : Told.of first firstEntries = Told.of second secondEntries := by
    have hread := readFile?_of_emit hf hfe hft
    rw [readFile?_of_emit hs hse hst] at hread
    exact (Option.some.inj hread).symm
  obtain ⟨hexpand, hmodules, haccess, hname, hpairs⟩ := Told.mk.inj htold
  have hentries : firstEntries = secondEntries := by
    refine List.map_injective_iff.mpr ?_ hpairs
    rintro ⟨constant, name⟩ ⟨other, otherName⟩ he
    cases he
    rfl
  have himports : first.imports = second.imports ∧
      (first.expand = false → first.supportModule = second.supportModule) := by
    cases he : first.expand with
    | true =>
      have he' : second.expand = true := hexpand.symm.trans he
      simp only [Layout.modules, he, he', if_true, List.append_nil] at hmodules
      exact ⟨hmodules, fun h => absurd h (by decide)⟩
    | false =>
      have he' : second.expand = false := hexpand.symm.trans he
      simp only [Layout.modules, he, he', Bool.false_eq_true, if_false] at hmodules
      obtain ⟨himports, hmarkers⟩ := List.append_inj' hmodules rfl
      exact ⟨himports, fun _ => List.head_eq_of_cons_eq hmarkers⟩
  exact ⟨hexpand, hname, haccess, himports.1, hentries, himports.2⟩

/-- In the expanded form a file does not tell its module of markers, and everything else it does. -/
theorem emit_faithful_otherMarkers :
    let first : Layout := { enumName := "Key", access := some "package", imports := ["Foundation"]
                            supportModule := "Markers", expand := true }
    let second : Layout := { first with supportModule := "OtherMarkers" }
    let entries : List Naming.Entry := [⟨"kInit", "\x60init\x60"⟩, ⟨"kLast", "last"⟩]
    ∃ text, first.emit entries = .ok text ∧ second.emit entries = .ok text ∧
      first.enumName = second.enumName ∧ first.access = second.access ∧
      first.imports = second.imports ∧ first.supportModule ≠ second.supportModule := by
  intro first second entries
  have hf : first.OnLines := ⟨by decide, by decide, by decide, by decide⟩
  have hs : second.OnLines := ⟨by decide, by decide, by decide, by decide⟩
  have he : ∀ entry ∈ entries, EntryOnLines entry := by
    simp only [entries, List.forall_mem_cons, EntryOnLines]
    decide
  have hconstants : ∀ entry ∈ entries, entry.constant ≠ "" := by decide
  have hft := (first.emit_eq_ok_iff entries _).mpr ⟨hconstants, rfl⟩
  have hst : second.emit entries =
      .ok (Text.joinLines (first.headLines ++ first.bodyLines entries)) :=
    (second.emit_eq_ok_iff entries _).mpr ⟨hconstants, rfl⟩
  obtain ⟨-, hname, haccess, himports, -, -⟩ := emit_faithful hf hs he he hft hst
  exact ⟨_, hft, hst, hname, haccess, himports, by decide⟩

end HeaderEnum.Swift
