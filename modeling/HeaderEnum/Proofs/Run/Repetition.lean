import HeaderEnum.Proofs.Disk.ScratchRoom
import HeaderEnum.Proofs.Run.Course

/-!
# A run repeated

A run that writes its output changes that file and makes directories on the way to it. When the
output is neither the header nor the config file, both still hold what they held, so the same run
finds the same settings and the same header, makes the same text, and writes it where it is written
already. It may draw other tags for its scratch file, as long as one of them is free. Where the output
is one of its own sources nothing is said.
-/

namespace HeaderEnum

open Disk (Place Tree Tag Replaced)

/-- A text comes from bytes that could be read. -/
theorem Disk.textOfRead_eq_ok {bytes : Except (Halt FileFault) ByteArray} {text : String}
    (h : textOfRead bytes = .ok text) : ∃ held, bytes = .ok held := by
  cases bytes with
  | error halt => contradiction
  | ok held => exact ⟨held, rfl⟩

section

variable [Platform]

/-- The output of a run denotes another file than its header and its config file. -/
def SparesSources (commandLine : List String) (cwd : Place) (before after : Tree) : Prop :=
  ∀ arguments settings, CommandLine.parse commandLine = .ok (.run arguments) →
    Settings.resolve arguments ⟨.absolute, cwd⟩ (configOnTree arguments cwd before) =
      .ok settings →
    ∀ place, after.resolve cwd settings.output = .ok place →
      after.resolve cwd settings.input ≠ .ok place ∧
        ∀ path, Settings.configPath? arguments ⟨.absolute, cwd⟩ = some path →
          after.resolve cwd path ≠ .ok place

/-- Another supply of tags has a free one for the output of a run that left a tree. -/
def DrawsFreeName (commandLine : List String) (cwd : Place) (before after : Tree)
    (tags : Nat → Tag) : Prop :=
  ∀ settings, AsksFor commandLine cwd before settings →
    ∀ place, after.resolve cwd settings.output.parent = .ok place →
      after.HasFreeName tags place settings.output.lastName

/-! ## What is read again -/

/-- What is read is a file at the place that the path denotes, and the system takes the path. -/
theorem Disk.Tree.read_eq_ok {tree : Tree} {cwd : Place} {path : Path} {bytes : ByteArray}
    (h : tree.read cwd path = .ok bytes) :
    path.crash? = none ∧
      ∃ place, tree.resolve cwd path = .ok place ∧ tree.find? place = some (.file bytes) := by
  unfold read at h
  split at h
  · contradiction
  · rename_i htaken
    split at h
    · contradiction
    · rename_i place hr
      split at h
      · rename_i found hf
        cases h
        exact ⟨htaken, place, hr, hf⟩
      · contradiction
      · contradiction

/-- A file other than the replaced one is read as before. -/
theorem Disk.Replaced.read {before after : Tree} {cwd : Place} {path other : Path}
    {bytes held : ByteArray} (h : Replaced before after cwd path bytes)
    (hread : before.read cwd other = .ok held)
    (hother : ∀ place, after.resolve cwd path = .ok place → after.resolve cwd other ≠ .ok place) :
    after.read cwd other = .ok held := by
  obtain ⟨place, hplace, -, hchanges⟩ := h
  obtain ⟨htaken, found, hfound, hfile⟩ := Tree.read_eq_ok hread
  have hstill : after.resolve cwd other = .ok found := hchanges.grows.resolve hfound
  have hne : found ∉ [place] := by
    intro hm
    rw [List.mem_singleton.mp hm] at hstill
    exact hother place hplace hstill
  simp only [Tree.read, htaken, hstill, (hchanges.files found hne held).mpr hfile]

/-- Settings come from a config file that could be read, if one is named. -/
theorem Settings.read_of_resolve {arguments : CommandLine.Arguments} {cwd path : Path}
    {bytes : Except (Halt Disk.FileFault) ByteArray} {settings : Settings}
    (h : Settings.resolve arguments cwd (some (path, bytes)) = .ok settings) :
    ∃ held, bytes = .ok held := by
  cases bytes with
  | error halt => contradiction
  | ok held => exact ⟨held, rfl⟩

/-- A run that spares its sources leaves them as they were. -/
theorem SparesSources.sameSources {commandLine : List String} {cwd : Place}
    {arguments : CommandLine.Arguments} {settings : Settings} {before after : Tree}
    {held bytes : ByteArray} (h : SparesSources commandLine cwd before after)
    (hp : CommandLine.parse commandLine = .ok (.run arguments))
    (hs : Settings.resolve arguments ⟨.absolute, cwd⟩ (configOnTree arguments cwd before) =
      .ok settings) (hheld : before.read cwd settings.input = .ok held)
    (hreplaced : Replaced before after cwd settings.output bytes) :
    SameSources commandLine cwd before after := by
  have hspared := h arguments settings hp hs
  constructor
  · intro others hothers
    cases hp.symm.trans hothers
    unfold configOnTree at hs ⊢
    cases hc : Settings.configPath? arguments ⟨.absolute, cwd⟩ with
    | none => rfl
    | some config =>
      rw [hc, Option.map_some] at hs
      obtain ⟨found, hfound⟩ := Settings.read_of_resolve hs
      have hconfig := hreplaced.read hfound fun place hplace => (hspared place hplace).2 config hc
      rw [Option.map_some, Option.map_some, hfound, hconfig]
  · intro others hasked
    cases hasked.unique ⟨arguments, hp, hs⟩
    rw [hheld]
    exact hreplaced.read hheld fun place hplace => (hspared place hplace).1

/-! ## The second run -/

/-- A report without a fault and a crash is one of success. -/
theorem Report.exit_eq_zero_iff {report : Report} {threshold : Nat} :
    (report.outcome threshold).exit = 0 ↔ report.halt = none := by
  rw [report.exit_eq]
  cases report.halt with
  | none => simp [exitCode]
  | some halt => simp [exitCode]

/-- A file that was written can be written again with a free scratch name, and the tree stays. -/
theorem Disk.Tree.replace_same {tree : Tree} {cwd : Place} {path : Path} {text : String}
    {first second : Nat → Tag} (h : (tree.replace first cwd path text).result = .ok ())
    (hfree : second = first ∨ ∀ place,
      (tree.replace first cwd path text).tree.resolve cwd path.parent = .ok place →
        (tree.replace first cwd path text).tree.HasFreeName second place path.lastName) :
    let after := (tree.replace first cwd path text).tree
    (after.replace second cwd path text).result = .ok () ∧
      ∀ place, (after.replace second cwd path text).tree.find? place = after.find? place := by
  intro after
  obtain ⟨henc, place, name, scratch, hw, hfile, hs⟩ := replace_again h
  obtain ⟨again, hagain⟩ : ∃ again,
      after.freeScratch? second path.root place name = .ok again := by
    rcases hfree with rfl | hname
    · exact ⟨scratch, hs⟩
    · have hdrawn := hname place hw.target.parent
      rw [hw.target.lastName_eq] at hdrawn
      exact exists_freeScratch? (hasRoom_of_freeScratch? hs) hdrawn
  have hreplace : after.replace second cwd path text =
      ⟨after.put (place ++ [name]) (.file text.toUTF8), .ok ()⟩ :=
    (hw.target.replace_eq_replaceIn hw.taken).trans (hw.replaceIn_eq hagain henc)
  rw [hreplace]
  refine ⟨rfl, fun other => ?_⟩
  by_cases ho : other = place ++ [name]
  · rw [ho]
    exact (find?_put_self (by simp)).trans hfile.symm
  · exact find?_put_of_ne ho

/-- What was written replaced the output. -/
theorem Disk.Tree.replaced_of_result {tree : Tree} {tags : Nat → Tag} {cwd : Place} {path : Path}
    {text : String} (h : (tree.replace tags cwd path text).result = .ok ()) :
    Replaced tree (tree.replace tags cwd path text).tree cwd path text.toUTF8 := by
  have hspec := tree.replace_spec tags cwd path text
  generalize tree.replace tags cwd path text = attempt at h hspec
  cases hspec with
  | done htaken henc hreplaced => exact hreplaced
  | stopped => contradiction
  | abandoned => contradiction

/-- A run over a tree with the sources of another one reports what a run over that one does, if what
it generates can be written. -/
theorem runOnTree_of_sameSources {surroundings : Surroundings} {commandLine : List String}
    {cwd : Place} {tree other : Tree} {arguments : CommandLine.Arguments} {threshold : Nat}
    {settings : Settings} {header : String} {generated : Generated} {tags : Nat → Tag}
    (hsources : SameSources commandLine cwd tree other)
    (hp : CommandLine.parse commandLine = .ok (.run arguments))
    (ht : thresholdFor arguments surroundings = .ok threshold)
    (hs : Settings.resolve arguments ⟨.absolute, cwd⟩ (configOnTree arguments cwd tree) =
      .ok settings)
    (hheader : Disk.textOfRead (tree.read cwd settings.input) = .ok header)
    (hgenerated : settings.generated surroundings.supportModule header = .ok generated)
    (hwritten : (other.replace tags cwd settings.output generated.text).result = .ok ()) :
    runOnTree { surroundings with tags } commandLine cwd other =
      (Report.outcome
        { notices := noticesOnTree arguments cwd tree
          log := settings.logOf header (.ok generated) ++ [endLine settings generated]
          warnings := generated.warnings } threshold,
        (other.replace tags cwd settings.output generated.text).tree) := by
  have hconfig := hsources.config arguments hp
  have hnotices : noticesOnTree arguments cwd other = noticesOnTree arguments cwd tree :=
    congrArg (Settings.noticesOf arguments ⟨.absolute, cwd⟩) hconfig
  rw [← hsources.header settings ⟨arguments, hp, hs⟩] at hheader
  rw [← hconfig] at hs
  have hcourse : Course { surroundings with tags } commandLine cwd other _ threshold _ :=
    .settled hp ht hs (.written hheader hgenerated hwritten)
  rw [hcourse.runOnTree_eq, hnotices]

/-- A run that succeeds and spares its sources can be repeated on the tree that it leaves: the second
run has the same exit code and prints the same, and every place holds what it held after the first
one. This is so too for a second run that draws other tags, if one of them is free. -/
theorem runOnTree_again {surroundings : Surroundings} {commandLine : List String} {cwd : Place}
    {tree : Tree} (hhelp : CommandLine.parse commandLine ≠ .ok .help)
    (hexit : (runOnTree surroundings commandLine cwd tree).1.exit = 0)
    (hspares : SparesSources commandLine cwd tree
      (runOnTree surroundings commandLine cwd tree).2) :
    let first := runOnTree surroundings commandLine cwd tree
    let second := runOnTree surroundings commandLine cwd first.2
    (second.1 = first.1 ∧ ∀ place, second.2.find? place = first.2.find? place) ∧
      ∀ tags, DrawsFreeName commandLine cwd tree first.2 tags →
        let other := runOnTree { surroundings with tags } commandLine cwd first.2
        other.1 = first.1 ∧ ∀ place, other.2.find? place = first.2.find? place := by
  obtain ⟨report, threshold, after, hcourse⟩ := exists_course surroundings cwd tree hhelp
  rw [hcourse.runOnTree_eq] at hexit hspares ⊢
  have hhalt : report.halt = none := Report.exit_eq_zero_iff.mp hexit
  cases hcourse with
  | misread => contradiction
  | misset => contradiction
  | unsettled => contradiction
  | @settled arguments _ settings _ _ hp ht hs hc =>
    cases hc with
    | unreadable => contradiction
    | refused => contradiction
    | unwritten => contradiction
    | @written header generated hheader hgenerated hwritten =>
      dsimp only at hspares ⊢
      obtain ⟨held, hheld⟩ := Disk.textOfRead_eq_ok hheader
      -- the second run is given what the first one was given
      have hsources := hspares.sameSources hp hs hheld (Tree.replaced_of_result hwritten)
      constructor
      · obtain ⟨hresult, hsame⟩ := Tree.replace_same hwritten (.inl rfl)
        have hrun := runOnTree_of_sameSources hsources hp ht hs hheader hgenerated hresult
        exact ⟨congrArg Prod.fst hrun, fun place =>
          (congrArg (·.2.find? place) hrun).trans (hsame place)⟩
      · intro tags hdraws
        have hname := hdraws settings ⟨arguments, hp, hs⟩
        obtain ⟨hresult, hsame⟩ := Tree.replace_same hwritten (.inr hname)
        have hrun := runOnTree_of_sameSources hsources hp ht hs hheader hgenerated hresult
        exact ⟨congrArg Prod.fst hrun, fun place =>
          (congrArg (·.2.find? place) hrun).trans (hsame place)⟩

end

/-- A run that makes a directory, finds a constant twice and logs its progress can be repeated, also
with the next tags. -/
theorem runOnTree_again_intoNewDirectory :
    let commandLine := ["--input", "a.h", "--output", "out/../out/b.swift", "--enum", "E", "-v"]
    let tree : Tree := ⟨[(["a.h"], .file "#define kA 1\r#define kA 2".toUTF8)]⟩
    let tags := fun number => Tag.ofNumber (number + 1)
    (runOnTree {} commandLine [] tree).1.exit = 0 ∧
      SparesSources commandLine [] tree (runOnTree {} commandLine [] tree).2 ∧
      let first := runOnTree {} commandLine [] tree
      let second := runOnTree {} commandLine [] first.2
      let other := runOnTree { tags } commandLine [] first.2
      (second.1 = first.1 ∧ ∀ place, second.2.find? place = first.2.find? place) ∧
        other.1 = first.1 ∧ ∀ place, other.2.find? place = first.2.find? place := by
  intro commandLine tree tags
  have hhelp : CommandLine.parse commandLine ≠ .ok .help := by decide +kernel
  have hexit : (runOnTree {} commandLine [] tree).1.exit = 0 := by decide +kernel
  have hpaths : ∀ settings, AsksFor commandLine [] tree settings →
      settings.input = ⟨.absolute, ["a.h"]⟩ ∧
        settings.output = ⟨.absolute, ["out", "..", "out", "b.swift"]⟩ := by
    intro settings hasked
    have hfound : (settingsOnTree? commandLine [] tree).map
        (fun found => (found.input, found.output)) =
          some (⟨.absolute, ["a.h"]⟩, ⟨.absolute, ["out", "..", "out", "b.swift"]⟩) := by
      decide +kernel
    rw [asksFor_iff.mp hasked] at hfound
    exact Prod.mk.inj (Option.some.inj hfound)
  have hspares : SparesSources commandLine [] tree (runOnTree {} commandLine [] tree).2 := by
    intro arguments settings hp hs place hplace
    obtain ⟨hinput, houtput⟩ := hpaths settings ⟨arguments, hp, hs⟩
    have hwritten : (runOnTree {} commandLine [] tree).2.resolve []
        ⟨.absolute, ["out", "..", "out", "b.swift"]⟩ = .ok ["out", "b.swift"] := by decide +kernel
    have hkept : (runOnTree {} commandLine [] tree).2.resolve [] ⟨.absolute, ["a.h"]⟩ =
        .ok ["a.h"] := by decide +kernel
    rw [houtput, hwritten] at hplace
    cases hplace
    rw [hinput, hkept]
    refine ⟨by decide, fun path hpath => ?_⟩
    have hparsed : CommandLine.parse commandLine = .ok (.run {
        input := some "a.h", output := some "out/../out/b.swift", enumName := some "E"
        verbose := true }) := by decide +kernel
    cases hparsed.symm.trans hp
    cases hpath
  have hdraws : DrawsFreeName commandLine [] tree (runOnTree {} commandLine [] tree).2 tags := by
    intro settings hasked place hplace
    have hmade : (runOnTree {} commandLine [] tree).2.resolve []
        ⟨.absolute, ["out", "..", "out"]⟩ = .ok ["out"] := by decide +kernel
    rw [(hpaths settings hasked).2] at hplace ⊢
    cases hmade.symm.trans hplace
    exact ⟨0, by decide, by decide +kernel⟩
  obtain ⟨hsecond, hothers⟩ := runOnTree_again hhelp hexit hspares
  exact ⟨hexit, hspares, hsecond, hothers tags hdraws⟩

end HeaderEnum
