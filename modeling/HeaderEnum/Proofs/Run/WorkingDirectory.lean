import HeaderEnum.Proofs.Disk.RootedPaths
import HeaderEnum.Proofs.Run.Course
import HeaderEnum.Proofs.Settings.AnchoredPaths

/-!
# The working directory of a run

Relative paths of flags are read from the working directory, and that is all it is good for. With the
paths told as they are read from there, a command line has the same settings or the same fault from
everywhere. Paths of the config file are read from its own directory only. A run whose paths are all
rooted prints the same and leaves the same tree, wherever it starts.
-/

namespace HeaderEnum

open CommandLine (Arguments)
open Disk (Place Tree Tag)
open Settings (outcome anchored flagPath configPath? nonEmpty AsksTheSame FlagIsRooted)

section

variable [Platform]

/-- A run with rooted paths does the same from everywhere. -/
theorem Settings.run_of_isRooted {settings : Settings} (hinput : settings.input.IsRooted)
    (houtput : settings.output.IsRooted) (supportModule : String) (tags : Nat → Tag)
    (here there : Place) :
    settings.run (treeAccess tags here) supportModule =
      settings.run (treeAccess tags there) supportModule := by
  have hread : (treeAccess tags here).read settings.input =
      (treeAccess tags there).read settings.input := by
    funext tree
    exact congrArg (·, tree) (Tree.read_of_isRooted hinput tree here there)
  have hreplace : ∀ text, (treeAccess tags here).replace settings.output text =
      (treeAccess tags there).replace settings.output text := by
    intro text
    funext tree
    have h := Tree.replace_of_isRooted houtput tree tags here there text
    exact congrArg (fun attempt => (attempt.result, attempt.tree)) h
  simp only [Settings.run, hread, hreplace]

/-- Runs that ask for the same from rooted directories do the same. -/
theorem runArguments_of_asksTheSame {first second : Arguments} {here there : Place}
    (h : AsksTheSame first second ⟨.absolute, here⟩ ⟨.absolute, there⟩) (supportModule : String)
    (tags : Nat → Tag) (tree : Tree) :
    (runArguments (treeAccess tags here) first ⟨.absolute, here⟩ supportModule).run tree =
      (runArguments (treeAccess tags there) second ⟨.absolute, there⟩ supportModule).run tree := by
  have hrooted : (⟨.absolute, here⟩ : Path).IsRooted := nofun
  have hread : ∀ path, configPath? first ⟨.absolute, here⟩ = some path →
      tree.read here path = tree.read there path := fun path hp =>
    Tree.read_of_isRooted (Settings.isRooted_of_flagPath hrooted hp) tree here there
  have hsame : outcome (tree.read here) first ⟨.absolute, here⟩ =
      outcome (tree.read there) second ⟨.absolute, there⟩ := h.outcome_eq hread
  have hnotices : noticesOnTree first here tree = noticesOnTree second there tree := by
    rw [noticesOnTree, noticesOnTree, configOnTree, configOnTree, h.config_eq hread,
      Settings.noticesOf, Settings.noticesOf, h.draftOf_eq]
  cases hs : outcome (tree.read here) first ⟨.absolute, here⟩ with
  | error halt =>
    rw [runArguments_of_resolve_error hs, runArguments_of_resolve_error (hsame.symm.trans hs),
      hnotices]
  | ok settings =>
    obtain ⟨hinput, houtput⟩ := Settings.isRooted_of_outcome hrooted hs
    have hrun := Settings.run_of_isRooted hinput houtput supportModule tags here there
    have hcourse : settings.Course supportModule tags here tree _ _ := Settings.run_eq_iff.mp rfl
    have hother : settings.Course supportModule tags there tree _ _ :=
      Settings.run_eq_iff.mp (congrArg (·.run tree) hrun).symm
    rw [runArguments_of_resolve hs hcourse, runArguments_of_resolve (hsame.symm.trans hs) hother,
      hnotices]

/-- The working directory counts for relative paths of flags and for nothing else. A command line has
from a directory the settings or the fault that it has from everywhere, once its paths are told as
they are read from that directory. If it gives neither header nor output, only the place of the
config file counts. If all paths that it gives are rooted, the directory does not count at all: the
settings or the fault are the same, and a whole run prints the same and leaves the same tree. -/
theorem workingDirectory_counts_for_flags_only (tree : Tree) (arguments : Arguments)
    {directory : Path} (hr : directory.IsRooted) (hn : directory.IsNormal) (other : Path)
    (here there : Place) :
    outcome (tree.read here) arguments directory =
        outcome (tree.read there) (anchored arguments directory) other ∧
      (nonEmpty arguments.input = none → nonEmpty arguments.output = none →
        configPath? arguments directory = configPath? arguments other →
        outcome (tree.read here) arguments directory =
          outcome (tree.read there) arguments other) ∧
      (FlagIsRooted arguments.input → FlagIsRooted arguments.output →
        FlagIsRooted arguments.config →
        outcome (tree.read here) arguments directory = outcome (tree.read there) arguments other ∧
          ∀ surroundings commandLine, CommandLine.parse commandLine = .ok (.run arguments) →
            runOnTree surroundings commandLine here tree =
              runOnTree surroundings commandLine there tree) := by
  have hread : ∀ path, configPath? arguments directory = some path →
      tree.read here path = tree.read there path := fun path hp =>
    Tree.read_of_isRooted (Settings.isRooted_of_flagPath hr hp) tree here there
  refine ⟨?_, ?_, ?_⟩
  · exact (Settings.asksTheSame_anchored hr hn arguments other).outcome_eq hread
  · intro hinput houtput hconfig
    have hsame : AsksTheSame arguments arguments directory other :=
      ⟨by rw [flagPath, flagPath, hinput]; rfl, by rw [flagPath, flagPath, houtput]; rfl, hconfig,
        rfl⟩
    exact hsame.outcome_eq hread
  · intro hinput houtput hconfig
    have hsame := Settings.asksTheSame_of_rooted hinput houtput hconfig
    refine ⟨(hsame directory other).outcome_eq hread, ?_⟩
    intro surroundings commandLine hp
    have hrun := runArguments_of_asksTheSame (hsame ⟨.absolute, here⟩ ⟨.absolute, there⟩)
      surroundings.supportModule surroundings.tags tree
    rw [runOnTree, run, runOnTree, run, hp]
    dsimp only
    cases thresholdFor arguments surroundings with
    | error crash => rfl
    | ok threshold => simp only [StateT.run_bind, hrun]

end

/-- A header below the directory, an output beside it and a config file in the root directory, seen
from another directory; then the config file alone; and then a run whose paths are rooted. -/
theorem workingDirectory_counts_for_flags_only_threeRequests :
    let tree : Tree := ⟨[(["w", "a.h"], .file "#define X 1".toUTF8), (["w"], .directory),
      (["c.json"], .file "\x7b\"input\": \"w/a.h\", \"output\": \"a.swift\"\x7d".toUTF8)]⟩
    let directory : Path := ⟨.absolute, ["w"]⟩
    let other : Path := ⟨.relative, ["elsewhere"]⟩
    let relative : Arguments := {
      input := some ".//a.h", output := some "../gen/a.swift", config := some "//c.json"
      enumName := some "E" }
    let byFile : Arguments := { config := some "/c.json", enumName := some "E" }
    let commandLine := ["--input", "/w/a.h", "--output", "/b.swift", "--enum", "E"]
    outcome (tree.read ["w"]) relative directory =
        outcome (tree.read []) { relative with
          input := some "/w/a.h", output := some "/w/../gen/a.swift" } other ∧
      outcome (tree.read ["w"]) byFile directory = outcome (tree.read []) byFile other ∧
      runOnTree {} commandLine ["w"] tree = runOnTree {} commandLine [] tree := by
  intro tree directory other relative byFile commandLine
  have hr : directory.IsRooted := by decide
  have hn : directory.IsNormal := by decide
  obtain ⟨hanchored, -, -⟩ :=
    workingDirectory_counts_for_flags_only tree relative hr hn other ["w"] []
  have htold : anchored relative directory = { relative with
      input := some "/w/a.h", output := some "/w/../gen/a.swift" } := by decide
  obtain ⟨-, hfile, -⟩ :=
    workingDirectory_counts_for_flags_only tree byFile hr hn other ["w"] []
  let rooted : Arguments := {
    input := some "/w/a.h", output := some "/b.swift", enumName := some "E" }
  obtain ⟨-, -, hrooted⟩ :=
    workingDirectory_counts_for_flags_only tree rooted hr hn other ["w"] []
  have hin : FlagIsRooted rooted.input := by
    rintro text ⟨⟩ -
    decide
  have hout : FlagIsRooted rooted.output := by
    rintro text ⟨⟩ -
    decide
  have hnone : FlagIsRooted rooted.config := nofun
  refine ⟨htold ▸ hanchored, hfile rfl rfl (by decide), ?_⟩
  exact (hrooted hin hout hnone).2 {} commandLine rfl

end HeaderEnum
