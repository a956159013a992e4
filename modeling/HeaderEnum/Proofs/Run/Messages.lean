import HeaderEnum.Proofs.Run.Course
import HeaderEnum.Proofs.Swift.TwoForms

/-!
# What a run tells

A run that logs nothing prints one line for each of its warnings and, when it fails, a line for the
fault and the help text. The warnings are those of all stages that it passed, in the order of the
stages: there are none before a header is read, a collision leaves out the constants from the late
one on, and a write that fails takes none away. A run that crashes tells nothing of all this. Notices
about the pattern come first in any case.
-/

namespace HeaderEnum

open Disk (Place Tree)
open Text (OnOneLine)

/-- The level of a run is one that lets no log line through. -/
def IsQuiet (surroundings : Surroundings) (commandLine : List String) : Prop :=
  ∀ arguments, CommandLine.parse commandLine = .ok (.run arguments) →
    ∃ threshold, thresholdFor arguments surroundings = .ok threshold ∧
      Log.Level.info.weight < threshold

/-- All warnings about a header that gives a file: the repeated definitions, then the constants of
which nothing is left, then the lack of entries. -/
def Settings.allWarnings (settings : Settings) (header : String) (generated : Generated) :
    List Warning :=
  (Header.scan header).warnings ++ settings.rules.skipped (Header.scan header).constants ++
    if generated.entries = [] then [.noConstants] else []

section

variable [Platform]

/-- The fault or the crash that ends a run over a tree, and its warnings. -/
inductive Told (surroundings : Surroundings) (commandLine : List String) (cwd : Place)
    (tree : Tree) : Option (Halt RunFault) → List Warning → Prop
  /-- The command line is wrong. -/
  | misread {fault : CommandLine.Fault} : CommandLine.parse commandLine = .error fault →
    Told surroundings commandLine cwd tree (some (.fault (.commandLine fault))) []
  /-- There are no settings. -/
  | unsettled {arguments : CommandLine.Arguments} {halt : Halt Settings.Fault} :
    CommandLine.parse commandLine = .ok (.run arguments) →
    Settings.resolve arguments ⟨.absolute, cwd⟩ (configOnTree arguments cwd tree) = .error halt →
    Told surroundings commandLine cwd tree (some (halt.map .settings)) []
  /-- The header cannot be read. -/
  | unreadable {settings : Settings} {halt : Halt Disk.FileFault} :
    AsksFor commandLine cwd tree settings →
    Disk.textOfRead (tree.read cwd settings.input) = .error halt →
    Told surroundings commandLine cwd tree (some (halt.map (.unreadable settings.input))) []
  /-- A constant meets the identifier of an earlier one. -/
  | collided {settings : Settings} {header late owner : String} {before : List String} :
    AsksFor commandLine cwd tree settings →
    Disk.textOfRead (tree.read cwd settings.input) = .ok header →
    settings.rules.FirstClash (Header.scan header).constants before late owner →
    Told surroundings commandLine cwd tree
      (some (.fault (.generation (.collision ⟨settings.rules.identify late, late, owner⟩))))
      ((Header.scan header).warnings ++ settings.rules.skipped before)
  /-- The file cannot be written. -/
  | unwritten {settings : Settings} {header : String} {generated : Generated}
      {halt : Halt Disk.FileFault} :
    AsksFor commandLine cwd tree settings →
    Disk.textOfRead (tree.read cwd settings.input) = .ok header →
    settings.generated surroundings.supportModule header = .ok generated →
    (tree.replace surroundings.tags cwd settings.output generated.text).result = .error halt →
    Told surroundings commandLine cwd tree (some (halt.map (.unwritable settings.output)))
      (settings.allWarnings header generated)
  /-- The file is written. -/
  | written {settings : Settings} {header : String} {generated : Generated} :
    AsksFor commandLine cwd tree settings →
    Disk.textOfRead (tree.read cwd settings.input) = .ok header →
    settings.generated surroundings.supportModule header = .ok generated →
    (tree.replace surroundings.tags cwd settings.output generated.text).result = .ok () →
    Told surroundings commandLine cwd tree none (settings.allWarnings header generated)

end

/-! ## Lines of text -/

/-- A text of ASCII characters that stands on one line. -/
def IsPlainLine (text : String) : Prop := ∀ c ∈ text.toList, c.toNat < 0x80 ∧ c ≠ '\n'

/-- Whether a text is a plain line can be looked up. -/
instance (text : String) : Decidable (IsPlainLine text) :=
  List.decidableBAll (fun c : Char => c.toNat < 0x80 ∧ c ≠ '\n') text.toList

/-- A plain line stands on one line. -/
theorem IsPlainLine.onOneLine {text : String} (h : IsPlainLine text) : OnOneLine text :=
  fun hm => (h _ hm).2 rfl

/-- A header with a first clash ends the stages there, with the warnings up to it. -/
theorem Settings.generated_of_firstClash (settings : Settings) (supportModule : String)
    {header late owner : String} {before : List String}
    (h : settings.rules.FirstClash (Header.scan header).constants before late owner) :
    settings.generated supportModule header =
      .error ⟨.collision ⟨settings.rules.identify late, late, owner⟩,
        (Header.scan header).warnings ++ settings.rules.skipped before⟩ := by
  rw [generated, generate, Naming.Rules.entriesOf_of_firstClash Swift.reservedWords h]

/-- The stages make a file of a header or end at its first clash, and have the warnings for it. -/
theorem Settings.generated_cases (settings : Settings) (supportModule header : String) :
    (∃ generated, settings.generated supportModule header = .ok generated ∧
        generated.warnings = settings.allWarnings header generated) ∨
      ∃ before late owner,
        settings.rules.FirstClash (Header.scan header).constants before late owner := by
  by_cases hd : settings.rules.Distinguishes (Header.scan header).constants
  · have he := Naming.Rules.entriesOf_of_distinguishes Swift.reservedWords hd
    obtain ⟨text, ht⟩ := Swift.emit_of_constants (settings.layout supportModule)
      (Swift.wellFormed_of_entriesOf he).constant_ne_empty
    rw [generated, generate, he]
    simp only [ht]
    refine .inl ⟨_, rfl, ?_⟩
    simp only [allWarnings, Swift.emissionWarnings, List.isEmpty_iff]
  · exact .inr (Naming.Rules.exists_firstClash (Header.nodup_constants header) hd)

/-- What settings make of a header has all warnings about it. -/
theorem Settings.warnings_of_generated {settings : Settings} {supportModule header : String}
    {generated : Generated} (h : settings.generated supportModule header = .ok generated) :
    generated.warnings = settings.allWarnings header generated := by
  rcases settings.generated_cases supportModule header with
    ⟨made, hok, hwarnings⟩ | ⟨before, late, owner, hclash⟩
  · rw [hok] at h
    cases h
    exact hwarnings
  · rw [settings.generated_of_firstClash supportModule hclash] at h
    contradiction

section

variable [Platform]

variable {surroundings : Surroundings} {commandLine : List String} {cwd : Place}

/-- What is told of a quiet run is how its course ended and the warnings of that course. -/
theorem Told.exists_course {tree : Tree} {halt : Option (Halt RunFault)} {warnings : List Warning}
    (h : Told surroundings commandLine cwd tree halt warnings)
    (hquiet : IsQuiet surroundings commandLine) :
    ∃ report threshold after, Course surroundings commandLine cwd tree report threshold after ∧
      report.halt = halt ∧ report.warnings = warnings := by
  -- the course of settings becomes one of the run, since the level is one
  have hsettled : ∀ {settings : Settings} {report : Report} {after : Tree},
      AsksFor commandLine cwd tree settings →
      settings.Course surroundings.supportModule surroundings.tags cwd tree report after →
      ∃ again threshold outside, Course surroundings commandLine cwd tree again threshold outside ∧
        again.halt = report.halt ∧ again.warnings = report.warnings := by
    rintro settings report after ⟨arguments, hp, hs⟩ hc
    obtain ⟨threshold, ht, -⟩ := hquiet arguments hp
    exact ⟨_, _, _, .settled hp ht hs hc, rfl, rfl⟩
  cases h with
  | misread hp => exact ⟨_, _, _, .misread hp, rfl, rfl⟩
  | unsettled hp hs =>
    obtain ⟨threshold, ht, -⟩ := hquiet _ hp
    exact ⟨_, _, _, .unsettled hp ht hs, rfl, rfl⟩
  | unreadable hasked hr => exact hsettled hasked (.unreadable hr)
  | @collided settings header late owner before hasked hr hclash =>
    have hg := settings.generated_of_firstClash surroundings.supportModule hclash
    exact hsettled hasked (.refused hr hg)
  | unwritten hasked hr hg hw =>
    rw [← Settings.warnings_of_generated hg]
    exact hsettled hasked (.unwritten hr hg hw)
  | written hasked hr hg hw =>
    rw [← Settings.warnings_of_generated hg]
    exact hsettled hasked (.written hr hg hw)

end

end HeaderEnum
