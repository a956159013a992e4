import HeaderEnum.Settings.Settings

/-!
# Where settings are given

A complete set of settings can be divided between a config file of the working directory and the
command line. A single value may stand in either, and the command line wins; a list is cut into a
first part in the file and a second one on the command line. However the settings are divided, they
have the same outcome, which is that of the command line alone. A config file elsewhere reads its
relative paths from another directory and is not covered.
-/

namespace HeaderEnum.Settings

open CommandLine (Arguments)
open Naming (CaseStyle)

/-- All settings of a run, as they are written. -/
structure Wanted where
  /-- The header to scan. -/
  input : String
  /-- The file to write. -/
  output : String
  /-- The name of the enum. -/
  enumName : String
  /-- The pattern that selects constants. -/
  pattern : Option String
  /-- Prefixes to drop. -/
  prefixes : List String
  /-- Suffixes to drop. -/
  suffixes : List String
  /-- The case style. -/
  caseStyle : Option String
  /-- The access level. -/
  access : Option String
  /-- Modules to import. -/
  imports : List String
  /-- Write the extension instead of the markers. -/
  expand : Bool
  deriving DecidableEq, Repr

/-- A label names a case style. -/
def IsStyle (label : String) : Prop := ∃ style, CaseStyle.ofLabel? label = some style

/-- Nothing that is needed is empty, and a case style is one. The pattern and the access level may
be wrong. -/
structure Wanted.IsComplete (wanted : Wanted) : Prop where
  /-- There is a header. -/
  input : wanted.input ≠ ""
  /-- There is an output. -/
  output : wanted.output ≠ ""
  /-- There is a name. -/
  enumName : wanted.enumName ≠ ""
  /-- A label that is given names a style. -/
  caseStyle : ∀ label, wanted.caseStyle = some label → IsStyle label

/-- A list as repeated flags give it. -/
def flagged (values : List String) : Option (List String) :=
  if values = [] then none else some values

/-- The settings on the command line alone. -/
def Wanted.arguments (wanted : Wanted) : Arguments where
  input := some wanted.input
  output := some wanted.output
  enumName := some wanted.enumName
  pattern := wanted.pattern
  prefixes := flagged wanted.prefixes
  suffixes := flagged wanted.suffixes
  caseStyle := wanted.caseStyle
  access := wanted.access
  imports := flagged wanted.imports
  expand := wanted.expand

/-- A single value, or none, is given by the value of a config file and that of a flag: in the file
only, by the flag only, or by the flag over a value of the file that may be hidden. -/
inductive Placed (mayHide : String → Prop) : Option String → Option String → Option String → Prop
  | inFile (value : Option String) : Placed mayHide value value none
  | byFlag (value : String) : Placed mayHide (some value) none (some value)
  | overFile {hidden : String} (value : String) : mayHide hidden →
    Placed mayHide (some value) (some hidden) (some value)

/-- A list is given by the first part in a config file and the second part by flags. -/
def Cut (values : List String) (file flags : Option (List String)) : Prop :=
  file.getD [] ++ flags.getD [] = values

/-- Settings are divided between a config file and a command line. A case style of the file must be
one even when a flag hides it, and every flag that is given has a text. -/
structure Divided (wanted : Wanted) (file : ConfigFile) (arguments : Arguments) : Prop where
  /-- The header. -/
  input : Placed (fun _ => True) (some wanted.input) file.input arguments.input
  /-- The output. -/
  output : Placed (fun _ => True) (some wanted.output) file.output arguments.output
  /-- The name of the enum. -/
  enumName : Placed (fun _ => True) (some wanted.enumName) file.enumName arguments.enumName
  /-- The pattern. -/
  pattern : Placed (fun _ => True) wanted.pattern file.pattern arguments.pattern
  /-- Prefixes. -/
  prefixes : Cut wanted.prefixes file.prefixes arguments.prefixes
  /-- Suffixes. -/
  suffixes : Cut wanted.suffixes file.suffixes arguments.suffixes
  /-- The case style. -/
  caseStyle : Placed IsStyle wanted.caseStyle file.caseStyle arguments.caseStyle
  /-- The access level. -/
  access : Placed (fun _ => True) wanted.access file.access arguments.access
  /-- Imports. -/
  imports : Cut wanted.imports file.imports arguments.imports
  /-- The extension is asked for in one of the two places or in both. -/
  expand : (file.expand.getD false || arguments.expand) = wanted.expand
  /-- No flag holds an empty list. -/
  hollow : arguments.hollow = []

/-- The outcome of a command line, given what every file holds. -/
def outcome [Platform] (read : Path → Except (Halt Disk.FileFault) ByteArray)
    (arguments : Arguments) (cwd : Path) : Except (Halt Fault) Settings :=
  resolve arguments cwd ((configPath? arguments cwd).map fun path => (path, read path))

/-- The values of all settings in one place, with the case style that was found for them. -/
def Wanted.draft (wanted : Wanted) (cwd : Path) (style : CaseStyle) : Draft where
  input := some (Path.resolve wanted.input cwd)
  output := some (Path.resolve wanted.output cwd)
  enumName := some wanted.enumName
  pattern := wanted.pattern
  prefixes := wanted.prefixes
  suffixes := wanted.suffixes
  style := style
  access := wanted.access
  imports := wanted.imports
  expand := wanted.expand

/-! ## Single values and lists -/

/-- A text that is not empty counts. -/
theorem nonEmpty_some {text : String} (h : text ≠ "") : nonEmpty (some text) = some text := by
  simp [nonEmpty, h]

/-- A list is what its flags give. -/
theorem getD_flagged (values : List String) : (flagged values).getD [] = values := by
  rw [flagged]
  split
  · rename_i he
    rw [he]
    rfl
  · rfl

/-- The flag before the file gives the value that was placed. -/
theorem Placed.or_eq {mayHide : String → Prop} {value file flag : Option String}
    (h : Placed mayHide value file flag) : flag.or file = value := by
  cases h with
  | inFile => exact Option.none_or
  | byFlag value => rfl
  | overFile value _ => rfl

/-- A flag for a value that is not empty is not empty. -/
theorem Placed.nonEmpty_flag {mayHide : String → Prop} {value : String} {file flag : Option String}
    (h : Placed mayHide (some value) file flag) (hv : value ≠ "") : nonEmpty flag = flag := by
  cases h with
  | inFile => rfl
  | byFlag => exact nonEmpty_some hv
  | overFile _ => exact nonEmpty_some hv

/-- A path of the file or of a flag is read from the same directory. -/
theorem Placed.or_map {mayHide : String → Prop} {value : String} {file flag : Option String}
    (h : Placed mayHide (some value) file flag) (hv : value ≠ "") (cwd : Path) :
    ((nonEmpty flag).map (Path.resolve · cwd)).or (file.map (Path.resolve · cwd)) =
      some (Path.resolve value cwd) := by
  rw [h.nonEmpty_flag hv, ← Option.map_or, h.or_eq]
  rfl

/-- A label that names a style gives it, wherever the label comes from. -/
theorem styleOf_of_label {label : String} {style : CaseStyle}
    (h : CaseStyle.ofLabel? label = some style) (source : String) (otherwise : CaseStyle) :
    styleOf source (some label) otherwise = .ok style := by
  simp only [styleOf, h]

/-- A case style that was placed is found in the file and by the flag as it is found by a flag
alone. -/
theorem Placed.styleOf_eq {label file flag : Option String} (h : Placed IsStyle label file flag)
    (hl : ∀ text, label = some text → IsStyle text) (inFile byFlag : String)
    (otherwise : CaseStyle) :
    ∃ first style, styleOf inFile file otherwise = .ok first ∧
      styleOf byFlag flag first = .ok style ∧ styleOf byFlag label otherwise = .ok style := by
  cases h with
  | inFile =>
    cases label with
    | none => exact ⟨otherwise, otherwise, rfl, rfl, rfl⟩
    | some text =>
      obtain ⟨style, hs⟩ := hl text rfl
      have hfile := styleOf_of_label hs inFile otherwise
      have hflag := styleOf_of_label hs byFlag otherwise
      exact ⟨style, style, hfile, rfl, hflag⟩
  | byFlag text =>
    obtain ⟨style, hs⟩ := hl text rfl
    have hflag := styleOf_of_label hs byFlag otherwise
    exact ⟨otherwise, style, rfl, hflag, hflag⟩
  | overFile text hhidden =>
    obtain ⟨hiddenStyle, hh⟩ := hhidden
    obtain ⟨style, hs⟩ := hl text rfl
    have hfile := styleOf_of_label hh inFile otherwise
    have hover := styleOf_of_label hs byFlag hiddenStyle
    have hflag := styleOf_of_label hs byFlag otherwise
    exact ⟨hiddenStyle, style, hfile, hover, hflag⟩

/-! ## All settings -/

/-- On the command line alone the settings make one draft. -/
theorem override_arguments {wanted : Wanted} (hc : wanted.IsComplete) (cwd : Path)
    {style : CaseStyle} (hs : styleOf "--case-style" wanted.caseStyle .lowerCamel = .ok style) :
    Draft.override {} wanted.arguments cwd = .ok (wanted.draft cwd style) := by
  have hinput := nonEmpty_some hc.input
  have houtput := nonEmpty_some hc.output
  have henum := nonEmpty_some hc.enumName
  simp only [Draft.override, Wanted.arguments, Wanted.draft, hs, hinput, houtput, henum,
    getD_flagged, Option.map_some, Option.or_none, List.nil_append, Bool.false_or]

/-- Divided between a file and the command line, the settings make the same draft. -/
theorem override_ofConfig {wanted : Wanted} {file : ConfigFile} {arguments : Arguments}
    (hc : wanted.IsComplete) (hd : Divided wanted file arguments) {path cwd : Path}
    (hhere : path.parent = cwd) {first style : CaseStyle}
    (hfirst : styleOf "caseStyle in config" file.caseStyle .lowerCamel = .ok first)
    (hs : styleOf "--case-style" arguments.caseStyle first = .ok style) :
    ∃ draft, Draft.ofConfig path file = .ok draft ∧
      draft.override arguments cwd = .ok (wanted.draft cwd style) := by
  have hinput := hd.input.or_map hc.input cwd
  have houtput := hd.output.or_map hc.output cwd
  have henum : (nonEmpty arguments.enumName).or file.enumName = some wanted.enumName := by
    rw [hd.enumName.nonEmpty_flag hc.enumName, hd.enumName.or_eq]
  simp only [Draft.ofConfig, hfirst, Except.ok.injEq, exists_eq_left', Draft.override, hs, hhere,
    hinput, houtput, henum, hd.pattern.or_eq, hd.access.or_eq, hd.expand, hd.hollow, List.append_nil,
    Wanted.draft]
  rw [hd.prefixes, hd.suffixes, hd.imports]

/-- However settings are divided between a config file of the working directory and the command
line, the outcome is that of the command line alone: the same settings, or the same fault. -/
theorem outcome_of_divided [Platform] {wanted : Wanted} {file : ConfigFile} {arguments : Arguments}
    (hc : wanted.IsComplete) (hd : Divided wanted file arguments)
    {read : Path → Except (Halt Disk.FileFault) ByteArray} {path cwd : Path}
    (hpath : configPath? arguments cwd = some path) (hhere : path.parent = cwd)
    (hload : ConfigFile.load path (read path) = .ok file) :
    outcome read arguments cwd = outcome read wanted.arguments cwd := by
  obtain ⟨first, style, hfirst, hstyle, hflags⟩ :=
    hd.caseStyle.styleOf_eq hc.caseStyle "caseStyle in config" "--case-style" .lowerCamel
  obtain ⟨draft, hdraft, hover⟩ := override_ofConfig hc hd hhere hfirst hstyle
  have halone := override_arguments hc cwd hflags
  have hboth : outcome read arguments cwd = (wanted.draft cwd style).finish := by
    rw [outcome, hpath, Option.map_some, resolve, draftOf]
    simp only [hload, hdraft, hover, bind, Except.bind]
  have hflag : outcome read wanted.arguments cwd = (wanted.draft cwd style).finish := by
    have hnone : configPath? wanted.arguments cwd = none := rfl
    rw [outcome, hnone, Option.map_none, resolve, draftOf]
    simp only [pure, Except.pure, halone, bind, Except.bind]
  rw [hboth, hflag]

/-- Settings divided in every way: the input hidden by a flag, the output in the file only, the name
by a flag only, prefixes in both places, and the extension asked for twice. -/
theorem outcome_of_divided_everyWay :
    let text := "\x7b\"input\": \"old.h\", \"output\": \"a.swift\", \"dropPrefix\": [\"K\"], "
      ++ "\"caseStyle\": \"keep\", \"expand\": true\x7d"
    let read : Path → Except (Halt Disk.FileFault) ByteArray := fun _ => .ok text.toUTF8
    let wanted : Wanted := {
      input := "a.h", output := "a.swift", enumName := "E", pattern := some "^K"
      prefixes := ["K", "Z"], suffixes := [], caseStyle := some "upperCamel", access := none
      imports := [], expand := true }
    let arguments : Arguments := {
      input := some "a.h", enumName := some "E", pattern := some "^K", prefixes := some ["Z"]
      caseStyle := some "upperCamel", config := some "c.json", expand := true }
    outcome read arguments ⟨.absolute, ["w"]⟩ =
      outcome read wanted.arguments ⟨.absolute, ["w"]⟩ := by
  intro text read wanted arguments
  let file : ConfigFile := {
    input := some "old.h", output := some "a.swift", prefixes := some ["K"]
    caseStyle := some "keep", expand := some true }
  have hload : ConfigFile.load ⟨.absolute, ["w", "c.json"]⟩ (.ok text.toUTF8) = .ok file := by
    have hread : (ConfigFile.load ⟨.absolute, ["w", "c.json"]⟩ (.ok text.toUTF8)).toOption =
        some file := by decide +kernel
    cases hl : ConfigFile.load ⟨.absolute, ["w", "c.json"]⟩ (.ok text.toUTF8) with
    | error fault =>
      rw [hl] at hread
      contradiction
    | ok found =>
      rw [hl] at hread
      exact congrArg Except.ok (Option.some.inj hread)
  have hc : wanted.IsComplete := by
    refine ⟨by decide, by decide, by decide, ?_⟩
    intro label he
    cases he
    exact ⟨.upperCamel, by decide⟩
  have hd : Divided wanted file arguments := {
    input := .overFile "a.h" trivial
    output := .inFile (some "a.swift")
    enumName := .byFlag "E"
    pattern := .byFlag "^K"
    prefixes := rfl
    suffixes := rfl
    caseStyle := .overFile "upperCamel" ⟨.keep, by decide⟩
    access := .inFile none
    imports := rfl
    expand := rfl
    hollow := rfl }
  exact outcome_of_divided hc hd (by decide) rfl hload

end HeaderEnum.Settings
