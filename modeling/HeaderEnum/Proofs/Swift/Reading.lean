import HeaderEnum.Proofs.Swift.FileLines

/-!
# Reading the body of a file

Readers for what stands below the opening line of an enum, in both forms, which know nothing of
entries. The annotated form is read as pairs of a marker and the case directly below it. The
expanded form is read in three parts that do not look at each other: the cases, the switch from
constants to cases, and the switch back. Each reader takes only lines that are laid out as they have
to be, to the end of the file, and gives back what a written body says.
-/

namespace HeaderEnum.Swift

open Text (between? between?_eq_some_iff dropPrefix?_append readEach readPairs)

/-- The name on the line of a case. -/
def caseName? (member line : String) : Option String := between? (caseLine member "") "" line

/-- The constant on the line of a marker. -/
def markedConstant? (line : String) : Option String :=
  between? (indented 1 ("@" ++ valueMarker ++ "(")) ")" line

/-- Markers, each directly above its case, with an empty line between one case and the next marker,
down to the end of the file. -/
def readMarked (member : String) : List String → Option (List (String × String))
  | marker :: line :: below :: rest =>
    match markedConstant? marker, caseName? member line with
    | some constant, some name =>
      if below = "" then (readMarked member rest).map ((constant, name) :: ·)
      else if below :: rest = ["\x7d", ""] then some [(constant, name)]
      else none
    | _, _ => none
  | others => if others = ["\x7d", ""] then some [] else none

/-- What the expanded form of an enum says in its three parts. -/
structure Expansion where
  /-- The cases that the enum declares, in order. -/
  cases : List String
  /-- The arms of the switch from a constant: the constant and the case it gives. -/
  fromConstant : List (String × String)
  /-- The arms of the switch from a case: the case and the constant it gives. -/
  fromCase : List (String × String)
  deriving DecidableEq, Repr

/-- The case that the first fitting arm gives for a constant. The default arm gives none. -/
def Expansion.caseOf? (expansion : Expansion) (constant : String) : Option String :=
  expansion.fromConstant.lookup constant

/-- The constant that the first fitting arm gives for a case. -/
def Expansion.constantOf? (expansion : Expansion) (name : String) : Option String :=
  expansion.fromCase.lookup name

/-- The constant that an arm is for. -/
def constantLabel? (line : String) : Option String := between? (indented 3 "case ") ":" line

/-- The case that an arm gives. -/
def caseTarget? (line : String) : Option String := between? (indented 3 "self = .") "" line

/-- The case that an arm is for. -/
def caseLabel? (line : String) : Option String := between? (indented 3 "case .") ":" line

/-- The constant that an arm gives. -/
def constantTarget? (line : String) : Option String := between? (indented 3 "return ") "" line

/-- The lines from the end of the cases to the first arm of the switch from a constant. -/
def linesToFirstSwitch (enumName member : String) : List String :=
  ["\x7d", "", "extension " ++ enumName ++ ": RawRepresentable \x7b",
    indented 1 (member ++ "typealias RawValue = String"),
    indented 1 (member ++ "init?(rawValue: String) \x7b"),
    indented 2 "switch rawValue \x7b"]

/-- The default arm of the switch from a constant, and the lines to the first arm of the switch
back. -/
def linesToSecondSwitch (member : String) : List String :=
  [indented 3 "default:", indented 3 "return nil", indented 2 "\x7d", indented 1 "\x7d", "",
    indented 1 (member ++ "var rawValue: String \x7b"), indented 2 "switch self \x7b"]

/-- The lines after the last arm, to the end of the file. -/
def linesToEnd : List String := [indented 2 "\x7d", indented 1 "\x7d", "\x7d", ""]

/-- The three parts of the expanded form. Without an extension there are no arms. -/
def readPlain (enumName member : String) (lines : List String) : Option Expansion := do
  let (cases, below) := readEach (caseName? member) lines
  if below = ["\x7d", ""] then return ⟨cases, [], []⟩
  let arms ← below.dropPrefix? (linesToFirstSwitch enumName member)
  let (fromConstant, below) := readPairs constantLabel? caseTarget? arms
  let arms ← below.dropPrefix? (linesToSecondSwitch member)
  let (fromCase, below) := readPairs caseLabel? constantTarget? arms
  if below = linesToEnd then return ⟨cases, fromConstant, fromCase⟩ else none

/-! ## Single lines -/

/-- A line holds the name of a case exactly when it is the line of that case. -/
theorem caseName?_eq_some_iff {member line name : String} :
    caseName? member line = some name ↔ line = caseLine member name := by
  rw [caseName?, between?_eq_some_iff]
  simp only [caseLine, indented_append, String.append_empty]

/-- A line holds a constant exactly when it is the line of the marker for it. -/
theorem markedConstant?_eq_some_iff {line constant : String} :
    markedConstant? line = some constant ↔ line = markerLine constant := by
  rw [markedConstant?, between?_eq_some_iff]
  simp only [markerLine, indented_append]

/-- A line that is moved to the right begins with a blank. -/
theorem head?_indented (line : String) : (indented 1 line).toList.head? = some ' ' := by
  rw [indented, String.toList_append, String.toList_ofList]
  rfl

/-- A line that is not moved to the right is no marker. -/
theorem markedConstant?_of_margin {line : String} (h : line.toList.head? ≠ some ' ') :
    markedConstant? line = none := by
  rw [Option.eq_none_iff_forall_ne_some]
  intro constant hr
  rw [markedConstant?_eq_some_iff.mp hr] at h
  exact h (head?_indented _)

/-- A line that is not moved to the right is no case. -/
theorem caseName?_of_margin (member : String) {line : String} (h : line.toList.head? ≠ some ' ') :
    caseName? member line = none := by
  rw [Option.eq_none_iff_forall_ne_some]
  intro name hr
  rw [caseName?_eq_some_iff.mp hr] at h
  exact h (head?_indented _)

/-- The line of a case is no marker. -/
theorem markedConstant?_of_caseName? {access : Option String} {line name : String}
    (h : caseName? (memberAccess access) line = some name) : markedConstant? line = none := by
  have hline : line = caseLine (memberAccess access) "" ++ name := by
    rw [caseName?_eq_some_iff.mp h]
    simp only [caseLine, indented_append, String.append_empty]
  rw [markedConstant?, hline]
  rcases memberAccess_cases access with ha | ha | ha
  all_goals
    rw [ha]
    exact Text.between?_append_of_not_prefix (by decide) (by decide)

/-- The line of a marker is no case. -/
theorem caseName?_of_markedConstant? (access : Option String) {line constant : String}
    (h : markedConstant? line = some constant) : caseName? (memberAccess access) line = none := by
  rw [Option.eq_none_iff_forall_ne_some]
  intro name hn
  rw [markedConstant?_of_caseName? hn] at h
  exact Option.some_ne_none constant h.symm

/-! ## Bodies -/

/-- The annotated form says which constant belongs to which case. -/
theorem readMarked_markedLines (layout : Layout) (entries : List Naming.Entry) :
    readMarked layout.member (layout.markedLines entries) =
      some (entries.map fun entry => (entry.constant, entry.identifier)) := by
  rw [Layout.markedLines]
  -- the last case has no empty line below it, so a single entry is a case of its own
  induction entries with
  | nil => rfl
  | cons entry rest ih =>
    have hmarker : markedConstant? (markerLine entry.constant) = some entry.constant :=
      markedConstant?_eq_some_iff.mpr rfl
    have hname : caseName? layout.member (caseLine layout.member entry.identifier) =
        some entry.identifier := caseName?_eq_some_iff.mpr rfl
    cases rest with
    | nil =>
      simp only [List.map_cons, List.map_nil, spaced, List.cons_append, List.nil_append, readMarked,
        hmarker, hname]
      rfl
    | cons second others =>
      have hmore : ((second :: others).map fun entry =>
          [markerLine entry.constant, caseLine layout.member entry.identifier]) ≠ [] :=
        List.cons_ne_nil _ _
      rw [List.map_cons, spaced_cons hmore]
      simp only [List.cons_append, List.nil_append, readMarked, hmarker, hname, if_true, ih]
      rfl

/-- A body that is read as marked cases has no other markers and no other cases. -/
theorem filterMap_of_readMarked {access : Option String} {lines : List String}
    {pairs : List (String × String)} (h : readMarked (memberAccess access) lines = some pairs) :
    lines.filterMap markedConstant? = pairs.map (·.1) ∧
      lines.filterMap (caseName? (memberAccess access)) = pairs.map (·.2) := by
  have hend : markedConstant? "\x7d" = none ∧ markedConstant? "" = none := by decide
  have hblank : caseName? (memberAccess access) "" = none := caseName?_of_margin _ (by decide)
  have hclose : caseName? (memberAccess access) "\x7d" = none := caseName?_of_margin _ (by decide)
  fun_induction readMarked (memberAccess access) lines generalizing pairs with
  | case1 marker line rest constant name hline hmarker ih =>
    obtain ⟨others, ho, rfl⟩ := Option.map_eq_some_iff.mp h
    obtain ⟨hconstants, hnames⟩ := ih ho
    have hplain : markedConstant? line = none := markedConstant?_of_caseName? hline
    have hmarked : caseName? (memberAccess access) marker = none :=
      caseName?_of_markedConstant? access hmarker
    simp only [List.filterMap_cons, hmarker, hplain, hend.2, hconstants, hmarked, hline, hblank,
      hnames, List.map_cons, and_self]
  | case2 marker line below rest constant name hline hmarker _ hbelow =>
    cases h
    have hplain : markedConstant? line = none := markedConstant?_of_caseName? hline
    have hmarked : caseName? (memberAccess access) marker = none :=
      caseName?_of_markedConstant? access hmarker
    rw [hbelow]
    simp only [List.filterMap_cons, List.filterMap_nil, hmarker, hplain, hend, hmarked, hline,
      hblank, hclose, List.map_cons, List.map_nil, and_self]
  | case3 => contradiction
  | case4 => contradiction
  | case5 =>
    cases h
    simp only [List.filterMap_cons, List.filterMap_nil, hend, hblank, hclose, List.map_nil,
      and_self]
  | case6 => contradiction

/-- What the expanded form of an enum with some entries should say. -/
def Expansion.ofEntries (entries : List Naming.Entry) : Expansion where
  cases := entries.map (·.identifier)
  fromConstant := entries.map fun entry => (entry.constant, entry.identifier)
  fromCase := entries.map fun entry => (entry.identifier, entry.constant)

/-- The arms of the switch from a constant are read up to its default arm. -/
theorem readPairs_armsFromConstant (entries : List Naming.Entry) (member : String)
    (rest : List String) :
    readPairs constantLabel? caseTarget?
        (armsFromConstant (entries.map armOf) ++ (linesToSecondSwitch member ++ rest)) =
      (entries.map fun entry => (entry.constant, entry.identifier),
        linesToSecondSwitch member ++ rest) := by
  have hlabel : ∀ entry : Naming.Entry,
      constantLabel? (indented 3 ("case " ++ entry.constant ++ ":")) = some entry.constant := by
    intro entry
    rw [constantLabel?, between?_eq_some_iff]
    simp only [indented_append]
  have htarget : ∀ entry : Naming.Entry,
      caseTarget? (indented 3 ("self = ." ++ entry.identifier)) = some entry.identifier := by
    intro entry
    rw [caseTarget?, between?_eq_some_iff]
    simp only [indented_append, String.append_empty]
  have hstop : constantLabel? (indented 3 "default:") = none := by decide
  rw [armsFromConstant, List.flatMap_map]
  exact Text.readPairs_append hlabel htarget hstop entries _

/-- The arms of the switch from a case are read up to the end of the switch. -/
theorem readPairs_armsFromCase (entries : List Naming.Entry) :
    readPairs caseLabel? constantTarget? (armsFromCase (entries.map armOf) ++ linesToEnd) =
      (entries.map fun entry => (entry.identifier, entry.constant), linesToEnd) := by
  have hlabel : ∀ entry : Naming.Entry,
      caseLabel? (indented 3 ("case ." ++ entry.identifier ++ ":")) = some entry.identifier := by
    intro entry
    rw [caseLabel?, between?_eq_some_iff]
    simp only [indented_append]
  have htarget : ∀ entry : Naming.Entry,
      constantTarget? (indented 3 ("return " ++ entry.constant)) = some entry.constant := by
    intro entry
    rw [constantTarget?, between?_eq_some_iff]
    simp only [indented_append, String.append_empty]
  have hstop : caseLabel? (indented 2 "\x7d") = none := by decide
  rw [armsFromCase, List.flatMap_map]
  exact Text.readPairs_append hlabel htarget hstop entries _

/-- The extension between the end of the cases and the end of the file is its two groups of arms
among known lines. -/
theorem extensionLines_eq (enumName : String) (access : Option String)
    (arms : List (String × String)) :
    "\x7d" :: "" :: (extensionLines enumName access arms ++ [""]) =
      linesToFirstSwitch enumName (memberAccess access) ++ (armsFromConstant arms ++
        (linesToSecondSwitch (memberAccess access) ++ (armsFromCase arms ++ linesToEnd))) := by
  simp only [extensionLines, linesToFirstSwitch, linesToSecondSwitch, linesToEnd,
    List.append_assoc, List.cons_append, List.nil_append]

/-- The cases of the expanded form are read up to the end of the enum. -/
theorem readEach_cases (access : Option String) (entries : List Naming.Entry)
    (below : List String) :
    readEach (caseName? (memberAccess access))
        (entries.map (fun entry => caseLine (memberAccess access) entry.identifier)
          ++ "\x7d" :: below) =
      (entries.map (·.identifier), "\x7d" :: below) := by
  have hname : ∀ entry : Naming.Entry,
      caseName? (memberAccess access) (caseLine (memberAccess access) entry.identifier) =
        some entry.identifier :=
    fun entry => caseName?_eq_some_iff.mpr rfl
  have hstop : caseName? (memberAccess access) "\x7d" = none := caseName?_of_margin _ (by decide)
  exact Text.readEach_append hname hstop entries below

/-- The expanded form says in each of its three parts what it should. -/
theorem readPlain_plainLines (layout : Layout) (entries : List Naming.Entry) :
    readPlain layout.enumName layout.member (layout.plainLines entries) =
      some (Expansion.ofEntries entries) := by
  have hcases := readEach_cases layout.access entries
  cases entries with
  | nil =>
    have hend := hcases [""]
    simp only [Layout.plainLines, Layout.belowCases, if_true, List.append_nil, List.append_assoc,
      List.cons_append, List.nil_append, readPlain, Layout.member, hend]
    rfl
  | cons first rest =>
    have hbelow := hcases
      ("" :: (extensionLines layout.enumName layout.access ((first :: rest).map armOf) ++ [""]))
    have hlines := extensionLines_eq layout.enumName layout.access ((first :: rest).map armOf)
    have hne : ¬(first :: rest = []) := List.cons_ne_nil first rest
    have hextension : "\x7d" :: ""
        :: (extensionLines layout.enumName layout.access ((first :: rest).map armOf) ++ [""]) ≠
          ["\x7d", ""] := by
      simp [extensionLines]
    simp only [Layout.plainLines, Layout.belowCases, if_neg hne, List.append_assoc,
      List.cons_append, List.nil_append, readPlain, Layout.member, hbelow, if_neg hextension]
    simp only [hlines, dropPrefix?_append, readPairs_armsFromConstant, readPairs_armsFromCase,
      if_true, Option.bind_eq_bind, Option.bind_some]
    rfl

end HeaderEnum.Swift
