import HeaderEnum.Proofs.Path.NormalForm
import HeaderEnum.Proofs.Settings.Precedence

/-!
# Anchored paths

The directory that a command line is read from matters only through the three paths that its flags
give from there. Two command lines that give the same paths, each from its own directory, and agree
otherwise have the same outcome. To anchor a command line at a directory is to replace the paths that
it gives by their texts as read from there; an anchored command line gives these paths from
everywhere.
-/

namespace HeaderEnum.Settings

open CommandLine (Arguments)

/-- The path that a flag gives from a directory; an empty value gives none. -/
def flagPath (flag : Option String) (cwd : Path) : Option Path :=
  (nonEmpty flag).map (Path.resolve · cwd)

/-- A flag gives a rooted path, if it gives one. -/
def FlagIsRooted (flag : Option String) : Prop :=
  ∀ text, flag = some text → text ≠ "" → (Path.ofString text).IsRooted

/-- The text of the path that a text denotes from a directory. An empty text stays empty. -/
def anchor (directory : Path) (text : String) : String :=
  if text = "" then "" else (Path.resolve text directory).toText

/-- A command line whose paths are told as they are read from a directory. -/
def anchored (arguments : Arguments) (directory : Path) : Arguments :=
  { arguments with
    input := arguments.input.map (anchor directory)
    output := arguments.output.map (anchor directory)
    config := arguments.config.map (anchor directory) }

/-- Everything on a command line but its paths. -/
def withoutPaths (arguments : Arguments) : Arguments :=
  { arguments with input := none, output := none, config := none }

/-- Two command lines ask for the same, each from its own directory. -/
structure AsksTheSame (first second : Arguments) (here there : Path) : Prop where
  /-- The header. -/
  input : flagPath first.input here = flagPath second.input there
  /-- The file to write. -/
  output : flagPath first.output here = flagPath second.output there
  /-- The config file. -/
  config : flagPath first.config here = flagPath second.config there
  /-- Everything else. -/
  others : withoutPaths first = withoutPaths second

/-! ## One flag -/

/-- A value that is not empty gives the path that it denotes. -/
theorem flagPath_some {text : String} (h : text ≠ "") (cwd : Path) :
    flagPath (some text) cwd = some (Path.resolve text cwd) := by
  rw [flagPath, nonEmpty_some h, Option.map_some]

/-- A rooted path is given from everywhere. -/
theorem FlagIsRooted.flagPath_eq {flag : Option String} (h : FlagIsRooted flag)
    (here there : Path) : flagPath flag here = flagPath flag there := by
  cases flag with
  | none => rfl
  | some text =>
    by_cases hempty : text = ""
    · rw [hempty]
      rfl
    · have hrooted := h text rfl hempty
      rw [flagPath_some hempty, flagPath_some hempty, Path.resolve, Path.resolve, hrooted.below_eq,
        hrooted.below_eq]

/-- An anchored flag gives from everywhere what the flag gives from the directory. -/
theorem flagPath_anchor {directory : Path} (hr : directory.IsRooted) (hn : directory.IsNormal)
    (flag : Option String) (other : Path) :
    flagPath (flag.map (anchor directory)) other = flagPath flag directory := by
  cases flag with
  | none => rfl
  | some text =>
    by_cases hempty : text = ""
    · rw [hempty]
      rfl
    · have hrooted : (Path.resolve text directory).IsRooted := Path.isRooted_below _ hr
      have hnormal : (Path.resolve text directory).IsNormal := Path.isNormal_resolve text hn
      rw [Option.map_some, anchor, if_neg hempty, flagPath_some hrooted.toText_ne_empty,
        flagPath_some hempty, Path.resolve_toText hrooted hnormal]

/-- What a flag gives from a rooted directory is rooted. -/
theorem isRooted_of_flagPath {flag : Option String} {cwd path : Path} (hr : cwd.IsRooted)
    (h : flagPath flag cwd = some path) : path.IsRooted := by
  obtain ⟨text, -, rfl⟩ := Option.map_eq_some_iff.mp h
  exact Path.isRooted_below _ hr

/-! ## All flags -/

/-- An anchored command line asks from everywhere for what the command line asks for from the
directory. -/
theorem asksTheSame_anchored {directory : Path} (hr : directory.IsRooted)
    (hn : directory.IsNormal) (arguments : Arguments) (other : Path) :
    AsksTheSame arguments (anchored arguments directory) directory other where
  input := (flagPath_anchor hr hn arguments.input other).symm
  output := (flagPath_anchor hr hn arguments.output other).symm
  config := (flagPath_anchor hr hn arguments.config other).symm
  others := rfl

/-- A command line whose paths are rooted asks for the same from everywhere. -/
theorem asksTheSame_of_rooted {arguments : Arguments} (hinput : FlagIsRooted arguments.input)
    (houtput : FlagIsRooted arguments.output) (hconfig : FlagIsRooted arguments.config)
    (here there : Path) : AsksTheSame arguments arguments here there where
  input := hinput.flagPath_eq here there
  output := houtput.flagPath_eq here there
  config := hconfig.flagPath_eq here there
  others := rfl

variable {first second : Arguments} {here there : Path}

/-- Command lines that ask for the same replace and join the same values. -/
theorem AsksTheSame.override_eq (h : AsksTheSame first second here there) (draft : Draft) :
    draft.override first here = draft.override second there := by
  have hinput : (nonEmpty first.input).map (Path.resolve · here) =
      (nonEmpty second.input).map (Path.resolve · there) := h.input
  have houtput : (nonEmpty first.output).map (Path.resolve · here) =
      (nonEmpty second.output).map (Path.resolve · there) := h.output
  have hothers := h.others
  simp only [withoutPaths, Arguments.mk.injEq, true_and] at hothers
  obtain ⟨henum, hpattern, hprefixes, hsuffixes, hstyle, haccess, himports, hexpand, -, hhollow⟩ :=
    hothers
  simp only [Draft.override, hinput, houtput, henum, hpattern, hprefixes, hsuffixes, hstyle,
    haccess, himports, hexpand, hhollow]

/-- Command lines that ask for the same have the same values, with the same config file. -/
theorem AsksTheSame.draftOf_eq [Platform] (h : AsksTheSame first second here there)
    (config : Option (Path × Except (Halt Disk.FileFault) ByteArray)) :
    draftOf first here config = draftOf second there config := by
  simp only [draftOf, h.override_eq]

/-- The same file is named as the config file, and it holds the same, as long as files hold the same
for both. -/
theorem AsksTheSame.config_eq (h : AsksTheSame first second here there)
    {read other : Path → Except (Halt Disk.FileFault) ByteArray}
    (hread : ∀ path, configPath? first here = some path → read path = other path) :
    (configPath? first here).map (fun path => (path, read path)) =
      (configPath? second there).map fun path => (path, other path) := by
  have hconfig : configPath? first here = configPath? second there := h.config
  rw [← hconfig]
  cases hp : configPath? first here with
  | none => rfl
  | some path => rw [Option.map_some, Option.map_some, hread path hp]

/-- Command lines that ask for the same have the same outcome, as long as the file that they name as
the config file holds the same for both. -/
theorem AsksTheSame.outcome_eq [Platform] (h : AsksTheSame first second here there)
    {read other : Path → Except (Halt Disk.FileFault) ByteArray}
    (hread : ∀ path, configPath? first here = some path → read path = other path) :
    outcome read first here = outcome other second there := by
  rw [outcome, outcome, h.config_eq hread, resolve, resolve, h.draftOf_eq]

/-! ## The paths of the outcome -/

/-- Paths of a draft are rooted. -/
structure Draft.IsRooted (draft : Draft) : Prop where
  /-- The header. -/
  input : ∀ path, draft.input = some path → path.IsRooted
  /-- The file to write. -/
  output : ∀ path, draft.output = some path → path.IsRooted

/-- Without paths nothing has to be rooted. -/
theorem Draft.isRooted_empty : ({} : Draft).IsRooted := by
  constructor
  · intro path hp
    contradiction
  · intro path hp
    contradiction

/-- A config file at a rooted path gives rooted paths. -/
theorem Draft.IsRooted.of_ofConfig {path : Path} {file : ConfigFile} {draft : Draft}
    (hr : path.IsRooted) (h : Draft.ofConfig path file = .ok draft) : draft.IsRooted := by
  have hfile : ∀ text : Option String, ∀ found,
      text.map (Path.resolve · path.parent) = some found → found.IsRooted := by
    intro text found hf
    obtain ⟨_, -, rfl⟩ := Option.map_eq_some_iff.mp hf
    exact Path.isRooted_below _ hr
  unfold Draft.ofConfig at h
  split at h
  · contradiction
  · cases h
    exact ⟨hfile file.input, hfile file.output⟩

/-- Flags that are read from a rooted directory keep the paths of a draft rooted. -/
theorem Draft.IsRooted.override {draft settled : Draft} (hd : draft.IsRooted)
    {arguments : Arguments} {cwd : Path} (hr : cwd.IsRooted)
    (h : draft.override arguments cwd = .ok settled) : settled.IsRooted := by
  have hor : ∀ flag : Option String, ∀ behind : Option Path,
      (∀ path, behind = some path → path.IsRooted) → ∀ path,
      (flagPath flag cwd).or behind = some path → path.IsRooted := by
    intro flag behind hbehind path hp
    rcases Option.or_eq_some_iff.mp hp with hf | ⟨-, hb⟩
    · exact isRooted_of_flagPath hr hf
    · exact hbehind path hb
  unfold Draft.override at h
  split at h
  · contradiction
  · cases h
    exact ⟨hor arguments.input draft.input hd.input, hor arguments.output draft.output hd.output⟩

/-- Settings have the paths of their draft. -/
theorem Draft.paths_of_finish [Platform] {draft : Draft} {settings : Settings}
    (h : draft.finish = .ok settings) :
    draft.input = some settings.input ∧ draft.output = some settings.output := by
  unfold Draft.finish at h
  split at h
  · rename_i input hinput
    split at h
    · rename_i output houtput
      split at h
      · obtain ⟨_, _, h⟩ := bind_eq_ok_iff.mp h
        obtain ⟨_, _, h⟩ := bind_eq_ok_iff.mp h
        obtain ⟨_, _, h⟩ := bind_eq_ok_iff.mp h
        obtain ⟨_, _, h⟩ := bind_eq_ok_iff.mp h
        cases h
        exact ⟨hinput, houtput⟩
      · contradiction
    · contradiction
  · contradiction

/-- From a rooted directory both paths of the settings are rooted. -/
theorem isRooted_of_outcome [Platform] {read : Path → Except (Halt Disk.FileFault) ByteArray}
    {arguments : Arguments} {cwd : Path} {settings : Settings} (hr : cwd.IsRooted)
    (h : outcome read arguments cwd = .ok settings) :
    settings.input.IsRooted ∧ settings.output.IsRooted := by
  have hfinish : ∀ draft : Draft, draft.IsRooted →
      (draft.override arguments cwd >>= Draft.finish) = .ok settings →
      settings.input.IsRooted ∧ settings.output.IsRooted := by
    intro draft hd hs
    cases ho : draft.override arguments cwd with
    | error fault =>
      rw [ho] at hs
      contradiction
    | ok settled =>
      rw [ho] at hs
      have hsettled := hd.override hr ho
      obtain ⟨hinput, houtput⟩ := Draft.paths_of_finish hs
      exact ⟨hsettled.input _ hinput, hsettled.output _ houtput⟩
  cases hp : configPath? arguments cwd with
  | none =>
    rw [outcome, hp] at h
    exact hfinish {} Draft.isRooted_empty h
  | some path =>
    have hpath : path.IsRooted := isRooted_of_flagPath hr hp
    cases hl : ConfigFile.load path (read path) with
    | error fault =>
      rw [outcome, hp, Option.map_some, resolve, draftOf] at h
      simp only [hl, bind, Except.bind, reduceCtorEq] at h
    | ok file =>
      cases hc : Draft.ofConfig path file with
      | error fault =>
        rw [outcome, hp, Option.map_some, resolve, draftOf] at h
        simp only [hl, hc, bind, Except.bind, reduceCtorEq] at h
      | ok draft =>
        rw [outcome_of_ofConfig hp hl hc] at h
        exact hfinish draft (.of_ofConfig hpath hc) h

end HeaderEnum.Settings
