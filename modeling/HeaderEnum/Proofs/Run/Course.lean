import HeaderEnum.Run

/-!
# The course of a run

Which stage a run over a tree ends at decides what it reports and which tree it leaves. There is one
rule for each place where a run can end, with everything that the stages before gave, and a run keeps
to exactly these rules. Two runs are compared by comparing what their stages are given.
-/

namespace HeaderEnum

open Disk (Place Tree Tag)

/-- After a stage that ends in a tree, the computation goes on from that tree. -/
theorem run_bind_of {α β : Type} {first : StateM Tree α} {next : α → StateM Tree β} {value : α}
    {before after : Tree} (h : first.run before = (value, after)) :
    (first >>= next).run before = (next value).run after := by
  rw [StateT.run_bind, h]
  rfl

/-- The exit code of a run that ends with a fault, a crash or neither. -/
def exitCode : Option (Halt RunFault) → Nat
  | none => 0
  | some _ => 1

variable [Platform]

/-- The config file that a command line names, as a tree holds it. -/
def configOnTree (arguments : CommandLine.Arguments) (cwd : Place) (tree : Tree) :
    Option (Path × Except (Halt Disk.FileFault) ByteArray) :=
  (Settings.configPath? arguments ⟨.absolute, cwd⟩).map fun path => (path, tree.read cwd path)

/-- The settings that a command line asks for over a tree. -/
def AsksFor (commandLine : List String) (cwd : Place) (tree : Tree) (settings : Settings) : Prop :=
  ∃ arguments, CommandLine.parse commandLine = .ok (.run arguments) ∧
    Settings.resolve arguments ⟨.absolute, cwd⟩ (configOnTree arguments cwd tree) = .ok settings

/-- The settings that a command line asks for over a tree, if there are any. -/
def settingsOnTree? (commandLine : List String) (cwd : Place) (tree : Tree) : Option Settings :=
  match CommandLine.parse commandLine with
  | .ok (.run arguments) =>
    (Settings.resolve arguments ⟨.absolute, cwd⟩ (configOnTree arguments cwd tree)).toOption
  | _ => none

/-- Another tree has the config file and the header of a run as this one has them. -/
structure SameSources (commandLine : List String) (cwd : Place) (tree other : Tree) : Prop where
  /-- The config file, if one is named. -/
  config : ∀ arguments, CommandLine.parse commandLine = .ok (.run arguments) →
    configOnTree arguments cwd other = configOnTree arguments cwd tree
  /-- The header, if there are settings. -/
  header : ∀ settings, AsksFor commandLine cwd tree settings →
    other.read cwd settings.input = tree.read cwd settings.input

/-- The log of a run that has read its header. -/
def Settings.logOf (settings : Settings) (header : String)
    (result : Except GenerationFailure Generated) : List Log.Line :=
  [startLine settings] ++ Log.ofGeneration settings.enumName header result

/-- What settings make of a header. -/
def Settings.generated (settings : Settings) (supportModule header : String) :
    Except GenerationFailure Generated :=
  generate settings.rules Swift.reservedWords (settings.layout supportModule) header

/-- Where a run with settings ends: what it reports and the tree that it leaves. -/
inductive Settings.Course (settings : Settings) (supportModule : String) (tags : Nat → Tag)
    (cwd : Place) (before : Tree) : Report → Tree → Prop
  /-- The header cannot be read. -/
  | unreadable {halt : Halt Disk.FileFault} :
    Disk.textOfRead (before.read cwd settings.input) = .error halt →
    Course settings supportModule tags cwd before
      (.stopped [startLine settings] [] (halt.map (.unreadable settings.input))) before
  /-- The header gives no file. -/
  | refused {header : String} {failure : GenerationFailure} :
    Disk.textOfRead (before.read cwd settings.input) = .ok header →
    settings.generated supportModule header = .error failure →
    Course settings supportModule tags cwd before
      (.stopped (settings.logOf header (.error failure)) failure.warnings
        (.fault (.generation failure.fault))) before
  /-- The file cannot be written. -/
  | unwritten {header : String} {generated : Generated} {halt : Halt Disk.FileFault} :
    Disk.textOfRead (before.read cwd settings.input) = .ok header →
    settings.generated supportModule header = .ok generated →
    (before.replace tags cwd settings.output generated.text).result = .error halt →
    Course settings supportModule tags cwd before
      (.stopped (settings.logOf header (.ok generated)) generated.warnings
        (halt.map (.unwritable settings.output)))
      (before.replace tags cwd settings.output generated.text).tree
  /-- The file is written. -/
  | written {header : String} {generated : Generated} :
    Disk.textOfRead (before.read cwd settings.input) = .ok header →
    settings.generated supportModule header = .ok generated →
    (before.replace tags cwd settings.output generated.text).result = .ok () →
    Course settings supportModule tags cwd before
      { log := settings.logOf header (.ok generated) ++ [endLine settings generated]
        warnings := generated.warnings }
      (before.replace tags cwd settings.output generated.text).tree

/-- The notices of a run over a tree about its pattern. -/
def noticesOnTree (arguments : CommandLine.Arguments) (cwd : Place) (tree : Tree) :
    List Pattern.Notice :=
  Settings.noticesOf arguments ⟨.absolute, cwd⟩ (configOnTree arguments cwd tree)

/-- Where a run ends: what it reports, the least weight of the log lines that it shows, and the tree
that it leaves. A call for help has no course. -/
inductive Course (surroundings : Surroundings) (commandLine : List String) (cwd : Place)
    (before : Tree) : Report → Nat → Tree → Prop
  /-- The command line is wrong. -/
  | misread {fault : CommandLine.Fault} : CommandLine.parse commandLine = .error fault →
    Course surroundings commandLine cwd before (.stopped [] [] (.fault (.commandLine fault))) 30
      before
  /-- The log level is none. -/
  | misset {arguments : CommandLine.Arguments} {crash : Crash} :
    CommandLine.parse commandLine = .ok (.run arguments) →
    thresholdFor arguments surroundings = .error crash →
    Course surroundings commandLine cwd before (.stopped [] [] (.crash crash)) 30 before
  /-- There are no settings. -/
  | unsettled {arguments : CommandLine.Arguments} {threshold : Nat}
      {halt : Halt Settings.Fault} :
    CommandLine.parse commandLine = .ok (.run arguments) →
    thresholdFor arguments surroundings = .ok threshold →
    Settings.resolve arguments ⟨.absolute, cwd⟩ (configOnTree arguments cwd before) =
      .error halt →
    Course surroundings commandLine cwd before
      { Report.stopped [] [] (halt.map .settings) with
        notices := noticesOnTree arguments cwd before } threshold before
  /-- There are settings. -/
  | settled {arguments : CommandLine.Arguments} {threshold : Nat} {settings : Settings}
      {report : Report} {after : Tree} :
    CommandLine.parse commandLine = .ok (.run arguments) →
    thresholdFor arguments surroundings = .ok threshold →
    Settings.resolve arguments ⟨.absolute, cwd⟩ (configOnTree arguments cwd before) =
      .ok settings →
    settings.Course surroundings.supportModule surroundings.tags cwd before report after →
    Course surroundings commandLine cwd before
      { report with notices := noticesOnTree arguments cwd before } threshold after

section Stages

variable (tags : Nat → Tag) (cwd : Place) (path : Path) (tree : Tree)

/-- Reading leaves the tree alone. -/
theorem treeAccess_read :
    ((treeAccess tags cwd).read path).run tree = (tree.read cwd path, tree) := rfl

/-- Replacing is what it is for trees. -/
theorem treeAccess_replace (text : String) :
    ((treeAccess tags cwd).replace path text).run tree =
      ((tree.replace tags cwd path text).result, (tree.replace tags cwd path text).tree) := rfl

/-- Reading the config file leaves the tree alone. -/
theorem readConfig_onTree (arguments : CommandLine.Arguments) :
    (readConfig (treeAccess tags cwd) arguments ⟨.absolute, cwd⟩).run tree =
      (configOnTree arguments cwd tree, tree) := by
  rw [readConfig, configOnTree]
  cases Settings.configPath? arguments ⟨.absolute, cwd⟩ with
  | none => rfl
  | some path =>
    dsimp only
    rw [run_bind_of (treeAccess_read tags cwd path tree)]
    rfl

end Stages

/-! ## The rules -/

/-- The exit code of a report tells whether the run was stopped. -/
theorem Report.exit_eq (report : Report) (threshold : Nat) :
    (report.outcome threshold).exit = exitCode report.halt := by
  unfold outcome
  cases report.halt with
  | none => rfl
  | some halt =>
    cases halt with
    | fault reason => rfl
    | crash cause => rfl

variable {surroundings : Surroundings} {commandLine : List String} {cwd : Place}

/-- A command line asks for the settings that are computed for it. -/
theorem asksFor_iff {tree : Tree} {settings : Settings} :
    AsksFor commandLine cwd tree settings ↔
      settingsOnTree? commandLine cwd tree = some settings := by
  unfold AsksFor settingsOnTree?
  constructor
  · rintro ⟨arguments, hp, hs⟩
    simp only [hp, hs]
    rfl
  · intro h
    split at h
    · rename_i arguments hp
      refine ⟨arguments, hp, ?_⟩
      cases hs : Settings.resolve arguments ⟨.absolute, cwd⟩ (configOnTree arguments cwd tree) with
      | error fault =>
        rw [hs] at h
        contradiction
      | ok found =>
        rw [hs] at h
        exact congrArg Except.ok (Option.some.inj h)
    · contradiction

/-- A command line asks for no two different settings. -/
theorem AsksFor.unique {tree : Tree} {first second : Settings}
    (hf : AsksFor commandLine cwd tree first) (hs : AsksFor commandLine cwd tree second) :
    first = second :=
  Option.some.inj ((asksFor_iff.mp hf).symm.trans (asksFor_iff.mp hs))

/-- A run with settings keeps to its course. -/
theorem Settings.run_eq_iff {settings : Settings} {supportModule : String} {tags : Nat → Tag}
    {before after : Tree} {report : Report} :
    (settings.run (treeAccess tags cwd) supportModule).run before = (report, after) ↔
      settings.Course supportModule tags cwd before report after := by
  rw [Settings.run, run_bind_of (treeAccess_read tags cwd settings.input before)]
  constructor
  · intro h
    dsimp only at h
    cases hr : Disk.textOfRead (before.read cwd settings.input) with
    | error halt =>
      simp only [hr] at h
      cases h
      exact .unreadable hr
    | ok header =>
      simp only [hr] at h
      cases hg : settings.generated supportModule header with
      | error failure =>
        rw [generated] at hg
        simp only [hg] at h
        cases h
        exact .refused hr hg
      | ok made =>
        rw [generated] at hg
        simp only [hg] at h
        rw [run_bind_of (treeAccess_replace tags cwd settings.output before made.text)] at h
        cases hw : (before.replace tags cwd settings.output made.text).result with
        | error halt =>
          simp only [hw] at h
          cases h
          exact .unwritten hr hg hw
        | ok done =>
          simp only [hw] at h
          cases h
          exact .written hr hg hw
  · intro h
    dsimp only
    cases h with
    | unreadable hr =>
      simp only [hr]
      rfl
    | refused hr hg =>
      rw [generated] at hg
      simp only [hr, hg]
      rfl
    | @unwritten header made halt hr hg hw =>
      rw [generated] at hg
      simp only [hr, hg]
      rw [run_bind_of (treeAccess_replace tags cwd settings.output before made.text)]
      simp only [hw]
      rfl
    | @written header made hr hg hw =>
      rw [generated] at hg
      simp only [hr, hg]
      rw [run_bind_of (treeAccess_replace tags cwd settings.output before made.text)]
      simp only [hw]
      rfl

/-- A run with the values of a command line that give settings keeps to the settings' course. -/
theorem runArguments_of_resolve {arguments : CommandLine.Arguments} {settings : Settings}
    {supportModule : String} {tags : Nat → Tag} {before after : Tree} {report : Report}
    (h : Settings.resolve arguments ⟨.absolute, cwd⟩ (configOnTree arguments cwd before) =
      .ok settings) (hc : settings.Course supportModule tags cwd before report after) :
    (runArguments (treeAccess tags cwd) arguments ⟨.absolute, cwd⟩ supportModule).run before =
      ({ report with notices := noticesOnTree arguments cwd before }, after) := by
  rw [runArguments, run_bind_of (readConfig_onTree tags cwd before arguments)]
  simp only [h]
  rw [run_bind_of (Settings.run_eq_iff.mpr hc)]
  rfl

/-- A run with the values of a command line that give no settings stops. -/
theorem runArguments_of_resolve_error {arguments : CommandLine.Arguments}
    {halt : Halt Settings.Fault} {before : Tree}
    (h : Settings.resolve arguments ⟨.absolute, cwd⟩ (configOnTree arguments cwd before) =
      .error halt) (supportModule : String) (tags : Nat → Tag) :
    (runArguments (treeAccess tags cwd) arguments ⟨.absolute, cwd⟩ supportModule).run before =
      ({ Report.stopped [] [] (halt.map .settings) with
        notices := noticesOnTree arguments cwd before }, before) := by
  rw [runArguments, run_bind_of (readConfig_onTree tags cwd before arguments)]
  simp only [h]
  rfl

/-- A run that asks for more than help has a course. -/
theorem exists_course (surroundings : Surroundings) (cwd : Place) (before : Tree)
    (h : CommandLine.parse commandLine ≠ .ok .help) :
    ∃ report threshold after,
      Course surroundings commandLine cwd before report threshold after := by
  cases hp : CommandLine.parse commandLine with
  | error fault => exact ⟨_, _, _, .misread hp⟩
  | ok request =>
    cases request with
    | help => exact absurd hp h
    | run arguments =>
      cases ht : thresholdFor arguments surroundings with
      | error crash => exact ⟨_, _, _, .misset hp ht⟩
      | ok threshold =>
        cases hs : Settings.resolve arguments ⟨.absolute, cwd⟩
            (configOnTree arguments cwd before) with
        | error halt => exact ⟨_, _, _, .unsettled hp ht hs⟩
        | ok settings => exact ⟨_, _, _, .settled hp ht hs (Settings.run_eq_iff.mp rfl)⟩

namespace Course

variable {before after : Tree} {report : Report} {threshold : Nat}

/-- A run has the outcome of its course and leaves the tree that it leads to. -/
theorem runOnTree_eq (h : Course surroundings commandLine cwd before report threshold after) :
    runOnTree surroundings commandLine cwd before = (report.outcome threshold, after) := by
  unfold runOnTree run
  cases h with
  | misread hp =>
    simp only [hp]
    rfl
  | misset hp ht =>
    simp only [hp, ht]
    rfl
  | unsettled hp ht hs =>
    simp only [hp, ht]
    rw [run_bind_of (runArguments_of_resolve_error hs surroundings.supportModule
      surroundings.tags)]
    rfl
  | settled hp ht hs hc =>
    simp only [hp, ht]
    rw [run_bind_of (runArguments_of_resolve hs hc)]
    rfl

end Course

end HeaderEnum
