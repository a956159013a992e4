import HeaderEnum.Proofs.Result
import HeaderEnum.Proofs.Settings.Placement

/-!
# Flags before the config file

A flag for a single value hides what a config file gives for it: two files that differ in that value
alone have the same outcome, even where one of the values would be wrong on its own. The case style
is the exception. It is looked up while the file is read, so a file that names no style is at fault
whatever the flags say. Values that are not hidden by a flag are not compared.
-/

namespace HeaderEnum.Settings

open CommandLine (Arguments)
open Naming (CaseStyle)

/-- A setting with a single value, which a config file and a flag can give. -/
inductive Scalar where
  /-- The header to scan. -/
  | input
  /-- The file to write. -/
  | output
  /-- The name of the enum. -/
  | enumName
  /-- The pattern that selects constants. -/
  | pattern
  /-- The case style. -/
  | caseStyle
  /-- The access level. -/
  | access
  deriving DecidableEq, Repr

/-- The value that a config file gives. -/
def ConfigFile.scalar (file : ConfigFile) : Scalar → Option String
  | .input => file.input
  | .output => file.output
  | .enumName => file.enumName
  | .pattern => file.pattern
  | .caseStyle => file.caseStyle
  | .access => file.access

/-- The value that a flag gives. -/
def flagOf (arguments : Arguments) : Scalar → Option String
  | .input => arguments.input
  | .output => arguments.output
  | .enumName => arguments.enumName
  | .pattern => arguments.pattern
  | .caseStyle => arguments.caseStyle
  | .access => arguments.access

/-- A flag gives a value that is not empty. -/
def IsGiven (flag : Option String) : Prop := ∃ value, flag = some value ∧ value ≠ ""

/-- Two config files agree on every key but one. -/
structure AgreeApartFrom (scalar : Scalar) (first second : ConfigFile) : Prop where
  /-- Every other single value. -/
  scalars : ∀ other, other ≠ scalar → first.scalar other = second.scalar other
  /-- Prefixes. -/
  prefixes : first.prefixes = second.prefixes
  /-- Suffixes. -/
  suffixes : first.suffixes = second.suffixes
  /-- Imports. -/
  imports : first.imports = second.imports
  /-- The extension. -/
  expand : first.expand = second.expand

/-- The case style of a config file is one, if there is any. -/
def ConfigFile.NamesStyle (file : ConfigFile) : Prop :=
  ∀ label, file.caseStyle = some label → IsStyle label

/-- The values of two config files are hidden by a flag, or they are the same. -/
def Settled (flag first second : Option String) : Prop := IsGiven flag ∨ first = second

/-! ## One value -/

/-- The flag before either file gives the same value. -/
theorem Settled.or_eq {flag first second : Option String} (h : Settled flag first second) :
    flag.or first = flag.or second := by
  rcases h with ⟨value, hv, -⟩ | he
  · rw [hv]
    rfl
  · rw [he]

/-- So it does when an empty flag does not count, and when the flag and the file are read in
different ways. -/
theorem Settled.map_or_map {α : Type} {flag first second : Option String}
    (h : Settled flag first second) (readFlag readFile : String → α) :
    ((nonEmpty flag).map readFlag).or (first.map readFile) =
      ((nonEmpty flag).map readFlag).or (second.map readFile) := by
  rcases h with ⟨value, hv, hne⟩ | he
  · rw [hv, nonEmpty_some hne]
    rfl
  · rw [he]

/-- The flag before either file gives the same case style, if both files name one. -/
theorem Settled.styleOf_eq {flag first second : Option String} (h : Settled flag first second)
    {inFile byFlag : String} {otherwise firstStyle secondStyle : CaseStyle}
    (hf : styleOf inFile first otherwise = .ok firstStyle)
    (hs : styleOf inFile second otherwise = .ok secondStyle) :
    styleOf byFlag flag firstStyle = styleOf byFlag flag secondStyle := by
  rcases h with ⟨value, hv, -⟩ | he
  · rw [hv]
    rfl
  · rw [he, hs] at hf
    rw [Except.ok.inj hf]

/-- A config file whose case style is one has a style. -/
theorem ConfigFile.NamesStyle.exists_styleOf {file : ConfigFile} (h : file.NamesStyle)
    (source : String) (otherwise : CaseStyle) :
    ∃ style, styleOf source file.caseStyle otherwise = .ok style := by
  cases hl : file.caseStyle with
  | none => exact ⟨otherwise, rfl⟩
  | some label =>
    obtain ⟨style, hs⟩ := h label hl
    exact ⟨style, styleOf_of_label hs source otherwise⟩

/-- A config file names no style exactly when it has a label that is none. -/
theorem ConfigFile.not_namesStyle_iff {file : ConfigFile} :
    ¬file.NamesStyle ↔ ∃ label, file.caseStyle = some label ∧ ¬IsStyle label := by
  simp only [NamesStyle, Classical.not_forall, exists_prop]

/-- A label that names no style is a fault of its source. -/
theorem styleOf_of_not_isStyle {label : String} (h : ¬IsStyle label) (source : String)
    (otherwise : CaseStyle) :
    styleOf source (some label) otherwise = .error (.fault (.unknownStyle source label)) := by
  cases hl : CaseStyle.ofLabel? label with
  | none => simp only [styleOf, hl]
  | some style => exact absurd ⟨style, hl⟩ h

/-! ## All values -/

variable {arguments : Arguments} {scalar : Scalar} {first second : ConfigFile} {cwd path : Path}

/-- Every single value is hidden by the flag or the same in both files. -/
theorem AgreeApartFrom.settled (ha : AgreeApartFrom scalar first second)
    (hg : IsGiven (flagOf arguments scalar)) (other : Scalar) :
    Settled (flagOf arguments other) (first.scalar other) (second.scalar other) := by
  by_cases ho : other = scalar
  · rw [ho]
    exact .inl hg
  · exact .inr (ha.scalars other ho)

/-- Two files that differ in a hidden value alone make the same draft with the flags, if both name
a case style. -/
theorem AgreeApartFrom.override_eq (ha : AgreeApartFrom scalar first second)
    (hg : IsGiven (flagOf arguments scalar)) (hf : first.NamesStyle) (hs : second.NamesStyle) :
    ∃ draft other, Draft.ofConfig path first = .ok draft ∧ Draft.ofConfig path second = .ok other ∧
      draft.override arguments cwd = other.override arguments cwd := by
  have hinput : Settled arguments.input first.input second.input := ha.settled hg .input
  have houtput : Settled arguments.output first.output second.output := ha.settled hg .output
  have henum : Settled arguments.enumName first.enumName second.enumName :=
    ha.settled hg .enumName
  have hpattern : Settled arguments.pattern first.pattern second.pattern := ha.settled hg .pattern
  have haccess : Settled arguments.access first.access second.access := ha.settled hg .access
  have hlabel : Settled arguments.caseStyle first.caseStyle second.caseStyle :=
    ha.settled hg .caseStyle
  obtain ⟨style, hstyle⟩ := hf.exists_styleOf "caseStyle in config" .lowerCamel
  obtain ⟨otherStyle, hother⟩ := hs.exists_styleOf "caseStyle in config" .lowerCamel
  have hname := henum.map_or_map id id
  rw [Option.map_id_fun, id_eq, id_eq, id_eq] at hname
  simp only [Draft.ofConfig, hstyle, hother, Except.ok.injEq, exists_and_left, exists_eq_left',
    Draft.override, hlabel.styleOf_eq hstyle hother, hinput.map_or_map, houtput.map_or_map, hname,
    hpattern.or_eq, haccess.or_eq, ha.prefixes, ha.suffixes, ha.imports, ha.expand]

/-! ## Faults about case styles -/

/-- A label that cannot be looked up is a fault of its source. -/
theorem halt_of_styleOf {source : String} {label : Option String} {otherwise : CaseStyle}
    {halt : Halt Fault} (h : styleOf source label otherwise = .error halt) :
    ∃ text, halt = .fault (.unknownStyle source text) := by
  unfold styleOf at h
  split at h
  · cases h
  · rename_i text
    split at h
    · cases h
    · cases h
      exact ⟨text, rfl⟩

/-- The only fault of flags over a draft is that of their case style. -/
theorem halt_of_override {draft : Draft} {halt : Halt Fault}
    (h : draft.override arguments cwd = .error halt) :
    ∃ text, halt = .fault (.unknownStyle "--case-style" text) := by
  unfold Draft.override at h
  split at h
  · rename_i hs
    rw [Except.error.inj h] at hs
    exact halt_of_styleOf hs
  · cases h

/-- An access level has no fault about a case style. -/
theorem accessOf_ne (access : Option String) (source label : String) :
    accessOf access ≠ .error (.fault (.unknownStyle source label)) := by
  cases access with
  | none => nofun
  | some level =>
    rw [accessOf]
    split <;> nofun

/-- An empty list is no fault at all. -/
theorem refuseHollow_ne (draft : Draft) (concerns : CommandLine.Flag → Bool) (fault : Fault) :
    draft.refuseHollow concerns ≠ .error (.fault fault) := by
  rw [Draft.refuseHollow]
  split <;> nofun

section

variable [Platform]

/-- A pattern has no fault about a case style. -/
theorem patternOf_ne (text : Option String) (source label : String) :
    patternOf text ≠ .error (.fault (.unknownStyle source label)) := by
  cases text with
  | none => nofun
  | some text =>
    rw [patternOf]
    cases Pattern.compile text with
    | ok pattern => nofun
    | error halt => cases halt <;> nofun

/-- To finish a draft finds no fault about a case style. -/
theorem finish_ne (draft : Draft) (source label : String) :
    draft.finish ≠ .error (.fault (.unknownStyle source label)) := by
  unfold Draft.finish
  split
  · split
    · split
      · refine bind_ne_error (refuseHollow_ne _ _ _) fun _ => ?_
        refine bind_ne_error (patternOf_ne _ _ _) fun _ => ?_
        refine bind_ne_error (accessOf_ne _ _ _) fun _ => ?_
        exact bind_ne_error (refuseHollow_ne _ _ _) fun _ => nofun
      · nofun
    · nofun
  · nofun

/-- What flags make of a draft gives no fault about a case style of a config file. -/
theorem finish_override_ne (draft : Draft) (arguments : Arguments) (cwd : Path) (label : String) :
    (draft.override arguments cwd >>= Draft.finish) ≠
      .error (.fault (.unknownStyle "caseStyle in config" label)) := by
  refine bind_ne_error (fun h => ?_) fun settled => finish_ne settled _ _
  obtain ⟨text, htext⟩ := halt_of_override h
  have hsource : "caseStyle in config" = "--case-style" :=
    (Fault.unknownStyle.inj (Halt.fault.inj htext)).1
  exact absurd hsource (by decide)

end

/-! ## Outcomes -/

section Outcomes

variable [Platform] {read : Path → Except (Halt Disk.FileFault) ByteArray}
  (hpath : configPath? arguments cwd = some path)

include hpath

/-- The outcome with a config file that gives a draft is that of the draft with the flags. -/
theorem outcome_of_ofConfig {file : ConfigFile} {draft : Draft}
    (hload : ConfigFile.load path (read path) = .ok file)
    (hdraft : Draft.ofConfig path file = .ok draft) :
    outcome read arguments cwd = draft.override arguments cwd >>= Draft.finish := by
  rw [outcome, hpath, Option.map_some, resolve, draftOf]
  simp only [hload, hdraft, bind, Except.bind]

/-- A config file that names no style is at fault, whatever the flags say. -/
theorem outcome_of_not_isStyle {file : ConfigFile} {label : String}
    (hload : ConfigFile.load path (read path) = .ok file) (hlabel : file.caseStyle = some label)
    (hbad : ¬IsStyle label) :
    outcome read arguments cwd = .error (.fault (.unknownStyle "caseStyle in config" label)) := by
  have hconfig : Draft.ofConfig path file =
      .error (.fault (.unknownStyle "caseStyle in config" label)) := by
    simp only [Draft.ofConfig, hlabel, styleOf_of_not_isStyle hbad]
  rw [outcome, hpath, Option.map_some, resolve, draftOf]
  simp only [hload, hconfig, bind, Except.bind]

/-- A config file whose case style is one is never at fault for it. -/
theorem outcome_ne_of_namesStyle {file : ConfigFile}
    (hload : ConfigFile.load path (read path) = .ok file) (hnames : file.NamesStyle)
    (label : String) :
    outcome read arguments cwd ≠ .error (.fault (.unknownStyle "caseStyle in config" label)) := by
  obtain ⟨style, hstyle⟩ := hnames.exists_styleOf "caseStyle in config" .lowerCamel
  have hdraft : ∃ draft, Draft.ofConfig path file = .ok draft := by
    simp only [Draft.ofConfig, hstyle, Except.ok.injEq, exists_eq']
  obtain ⟨draft, hdraft⟩ := hdraft
  rw [outcome_of_ofConfig hpath hload hdraft]
  exact finish_override_ne draft arguments cwd label

/-- A config file that names no style has the outcome of no file with another case style. -/
theorem caseStyle_eq_of_outcome_eq {other : Path → Except (Halt Disk.FileFault) ByteArray}
    (hfirst : ConfigFile.load path (read path) = .ok first)
    (hsecond : ConfigFile.load path (other path) = .ok second) (hbad : ¬first.NamesStyle)
    (h : outcome read arguments cwd = outcome other arguments cwd) :
    first.caseStyle = second.caseStyle := by
  obtain ⟨label, hl, hlabel⟩ := ConfigFile.not_namesStyle_iff.mp hbad
  rw [outcome_of_not_isStyle hpath hfirst hl hlabel] at h
  have hother : ¬second.NamesStyle :=
    fun hnames => outcome_ne_of_namesStyle hpath hsecond hnames label h.symm
  obtain ⟨text, ht, htext⟩ := ConfigFile.not_namesStyle_iff.mp hother
  rw [outcome_of_not_isStyle hpath hsecond ht htext] at h
  have hsame : label = text := (Fault.unknownStyle.inj (Halt.fault.inj (Except.error.inj h))).2
  rw [hl, ht, hsame]

/-- A flag that is not empty hides the value of the config file: two files that differ in that value
alone have the same outcome, be it settings or a fault. The one exception is the case style. Files
with different case styles have the same outcome under a flag only if both of these are styles. -/
theorem outcome_under_flag_iff {other : Path → Except (Halt Disk.FileFault) ByteArray}
    (hflag : IsGiven (flagOf arguments scalar))
    (hfirst : ConfigFile.load path (read path) = .ok first)
    (hsecond : ConfigFile.load path (other path) = .ok second)
    (hagree : AgreeApartFrom scalar first second) :
    outcome read arguments cwd = outcome other arguments cwd ↔
      (scalar = .caseStyle →
        first.caseStyle = second.caseStyle ∨ first.NamesStyle ∧ second.NamesStyle) := by
  constructor
  · intro h _
    by_cases hf : first.NamesStyle
    · by_cases hs : second.NamesStyle
      · exact .inr ⟨hf, hs⟩
      · exact .inl (caseStyle_eq_of_outcome_eq hpath hsecond hfirst hs h.symm).symm
    · exact .inl (caseStyle_eq_of_outcome_eq hpath hfirst hsecond hf h)
  · intro h
    by_cases hnames : first.NamesStyle ∧ second.NamesStyle
    · obtain ⟨draft, otherDraft, hd, ho, heq⟩ := hagree.override_eq hflag hnames.1 hnames.2
      rw [outcome_of_ofConfig hpath hfirst hd, outcome_of_ofConfig hpath hsecond ho, heq]
    · have hsame : first.caseStyle = second.caseStyle := by
        by_cases hscalar : scalar = .caseStyle
        · exact (h hscalar).resolve_right hnames
        · exact hagree.scalars .caseStyle (Ne.symm hscalar)
      have hbad : ¬first.NamesStyle := by
        intro hf
        have hs : second.NamesStyle := fun label hl => hf label (hsame.trans hl)
        exact hnames ⟨hf, hs⟩
      obtain ⟨label, hl, hlabel⟩ := ConfigFile.not_namesStyle_iff.mp hbad
      have hl' : second.caseStyle = some label := hsame.symm.trans hl
      rw [outcome_of_not_isStyle hpath hfirst hl hlabel,
        outcome_of_not_isStyle hpath hsecond hl' hlabel]

end Outcomes

/-- A pattern that could not be compiled is hidden by a flag. -/
theorem outcome_under_flag_iff_badPattern :
    let read : Path → Except (Halt Disk.FileFault) ByteArray :=
      fun _ => .ok "\x7b\"match\": \"([\", \"access\": \"open\"\x7d".toUTF8
    let other : Path → Except (Halt Disk.FileFault) ByteArray :=
      fun _ => .ok "\x7b\"access\": \"open\"\x7d".toUTF8
    let arguments : Arguments := {
      input := some "a.h", output := some "a.swift", enumName := some "E", pattern := some "^k"
      config := some "c.json" }
    let cwd : Path := ⟨.absolute, ["w"]⟩
    let path : Path := ⟨.absolute, ["w", "c.json"]⟩
    let first : ConfigFile := { pattern := some "([", access := some "open" }
    let second : ConfigFile := { access := some "open" }
    configPath? arguments cwd = some path ∧ IsGiven (flagOf arguments .pattern) ∧
      ConfigFile.load path (read path) = .ok first ∧
      ConfigFile.load path (other path) = .ok second ∧ AgreeApartFrom .pattern first second ∧
      outcome read arguments cwd = outcome other arguments cwd := by
  intro read other arguments cwd path first second
  have hpath : configPath? arguments cwd = some path := by decide
  have hflag : IsGiven (flagOf arguments .pattern) := ⟨"^k", rfl, by decide⟩
  have hfirst : ConfigFile.load path (read path) = .ok first :=
    eq_ok_of_toOption (by decide +kernel)
  have hsecond : ConfigFile.load path (other path) = .ok second :=
    eq_ok_of_toOption (by decide +kernel)
  have hagree : AgreeApartFrom .pattern first second := by
    refine ⟨fun other ho => ?_, rfl, rfl, rfl, rfl⟩
    cases other with
    | pattern => exact absurd rfl ho
    | _ => rfl
  have hiff := outcome_under_flag_iff hpath hflag hfirst hsecond hagree
  exact ⟨hpath, hflag, hfirst, hsecond, hagree, hiff.mpr fun h => absurd h (by decide)⟩

/-- A case style that is none is reported even under a flag. -/
theorem outcome_of_hidden_style :
    let read : Path → Except (Halt Disk.FileFault) ByteArray :=
      fun _ => .ok "\x7b\"caseStyle\": \"kebab\"\x7d".toUTF8
    let other : Path → Except (Halt Disk.FileFault) ByteArray := fun _ => .ok "\x7b\x7d".toUTF8
    let arguments : Arguments := {
      input := some "a.h", output := some "a.swift", enumName := some "E"
      caseStyle := some "keep", config := some "c.json" }
    let cwd : Path := ⟨.absolute, ["w"]⟩
    let path : Path := ⟨.absolute, ["w", "c.json"]⟩
    let first : ConfigFile := { caseStyle := some "kebab" }
    let second : ConfigFile := {}
    configPath? arguments cwd = some path ∧ IsGiven (flagOf arguments .caseStyle) ∧
      ConfigFile.load path (read path) = .ok first ∧
      ConfigFile.load path (other path) = .ok second ∧ AgreeApartFrom .caseStyle first second ∧
      outcome read arguments cwd = .error (.fault (.unknownStyle "caseStyle in config" "kebab")) ∧
      outcome other arguments cwd ≠ outcome read arguments cwd := by
  intro read other arguments cwd path first second
  have hpath : configPath? arguments cwd = some path := by decide
  have hflag : IsGiven (flagOf arguments .caseStyle) := ⟨"keep", rfl, by decide⟩
  have hfirst : ConfigFile.load path (read path) = .ok first :=
    eq_ok_of_toOption (by decide +kernel)
  have hsecond : ConfigFile.load path (other path) = .ok second :=
    eq_ok_of_toOption (by decide +kernel)
  have hagree : AgreeApartFrom .caseStyle first second := by
    refine ⟨fun other ho => ?_, rfl, rfl, rfl, rfl⟩
    cases other with
    | caseStyle => exact absurd rfl ho
    | _ => rfl
  have hbad : ¬IsStyle "kebab" := by
    rintro ⟨style, hs⟩
    exact absurd hs (by cases style <;> decide)
  have hnames : second.NamesStyle := fun label hl => by cases hl
  have houtcome := outcome_of_not_isStyle hpath hfirst rfl hbad
  refine ⟨hpath, hflag, hfirst, hsecond, hagree, houtcome, ?_⟩
  rw [houtcome]
  exact outcome_ne_of_namesStyle hpath hsecond hnames "kebab"

end HeaderEnum.Settings
