import HeaderEnum.Proofs.Disk.ScratchRoom

/-!
# Failed writes

A write that fails takes back its scratch file, so the tree is the one that making its directory
leaves. Everything that was there is there as before. Directories made on the way stay, and they are
all that is new; where the directory was there already, the tree is exactly as before. A crash is no
failure in this sense.
-/

namespace HeaderEnum.Disk

namespace ChangesOnly

variable [Platform] {before after : Tree} {cwd place : Place} {path : Path} {content : Content}

/-- When no file is written, what was there is there as before. -/
theorem find?_eq_some (h : ChangesOnly before after cwd path [])
    (hb : before.find? place = some content) : after.find? place = some content := by
  cases content with
  | file bytes => exact (h.files place List.not_mem_nil bytes).mpr hb
  | directory =>
    have hd : before.isDirectoryAt place = true := by
      rw [Tree.isDirectoryAt, hb]
      rfl
    exact eq_of_beq (h.grows.directory hd)

/-- When no file is written, what is new is a directory on the path. -/
theorem of_new (h : ChangesOnly before after cwd path []) (hb : before.find? place = none)
    (ha : after.find? place = some content) :
    content = .directory ∧
      ∃ names, names <+: path.names ∧ after.resolve cwd ⟨path.root, names⟩ = .ok place := by
  cases content with
  | file bytes =>
    rw [(h.files place List.not_mem_nil bytes).mp ha] at hb
    contradiction
  | directory =>
    refine ⟨rfl, h.named place ?_ ?_⟩
    · rw [Tree.isDirectoryAt, ha]
      rfl
    · rw [Tree.isDirectoryAt, hb]
      rfl

end ChangesOnly

namespace Tree

section

variable [Platform] {tree : Tree} {tags : Nat → Tag} {cwd : Place} {path : Path} {text : String}
  {fault : FileFault}

/-- A failed write does to the tree what making its directory does. -/
theorem replace_of_error (h : (tree.replace tags cwd path text).result = .error (.fault fault)) :
    (tree.replace tags cwd path text).tree = (tree.ensureDirectory cwd path.parent).tree := by
  have hcourse := tree.course_replace tags cwd path text
  generalize tree.replace tags cwd path text = attempt at h hcourse ⊢
  cases hcourse with
  | unmakable => exact nomatch h
  | unmade => rfl
  | untaken => exact nomatch h
  | made _ hin =>
    cases hin with
    | failed => rfl
    | crashed => exact nomatch h
    | moved => exact nomatch h

/-- What a failed write leaves. The tree is the one that making the directory of the path leaves:
everything that was there is there as before, and what is new is a directory that some first names
of the path denote. If the directory was there already, the tree is exactly as before. -/
theorem failed_replace_leaves
    (h : (tree.replace tags cwd path text).result = .error (.fault fault)) :
    let after := (tree.replace tags cwd path text).tree
    after = (tree.ensureDirectory cwd path.parent).tree ∧
      (∀ place content, tree.find? place = some content → after.find? place = some content) ∧
      (∀ place content, tree.find? place = none → after.find? place = some content →
        content = .directory ∧ ∃ names, names <+: path.parent.names ∧
          after.resolve cwd ⟨path.root, names⟩ = .ok place) ∧
      (tree.isDirectory cwd path.parent = true → after = tree) := by
  intro after
  have he : after = (tree.ensureDirectory cwd path.parent).tree := replace_of_error h
  have hchanges : ChangesOnly tree after cwd path.parent [] := by
    rw [he]
    exact ensureDirectory_changesOnly tree cwd path.parent
  refine ⟨he, fun _ _ => hchanges.find?_eq_some, fun _ _ => hchanges.of_new, fun hd => ?_⟩
  rw [he, ensureDirectory_of_isDirectory hd]

end

/-- A name that no directory can hold, in a directory that is there or was made. -/
theorem replaceIn_longName {tree : Tree} {path : Path} {text : String}
    (hpath : path = ⟨.relative, ["gen", String.ofList (List.replicate 256 'a')]⟩)
    (hgen : tree.resolve [] ⟨.relative, ["gen"]⟩ = .ok ["gen"]) :
    path.crash? = none ∧ tree.replaceIn Tag.ofNumber [] path text =
      ⟨tree, .error (.fault .nameTooLong)⟩ := by
  have hsize : Text.byteSize (String.ofList (List.replicate 256 'a')) = 256 :=
    (Text.byteSize_ofList _).trans (by decide +kernel)
  have hroom : ¬HasRoom .relative ["gen"] (String.ofList (List.replicate 256 'a')) := by
    intro h
    have hfits := h.nameFits
    rw [hsize] at hfits
    exact absurd hfits (by decide)
  subst hpath
  refine ⟨?_, replaceIn_of_no_scratch hgen (freeScratch?_of_not_hasRoom hroom)⟩
  have hcharacters : ∀ chars, (⟨.relative, ["gen", String.ofList chars]⟩ : Path).characters =
      "gen".toList ++ chars := by
    simp [Path.characters]
  rw [Path.crash?_eq_none_iff, hcharacters]
  decide +kernel

/-- A name that no directory can hold, in a directory that is there. -/
theorem failed_replace_leaves_longName :
    let tree : Tree := ⟨[(["a.h"], .file "#define X 1".toUTF8), (["gen"], .directory)]⟩
    let path : Path := ⟨.relative, ["gen", String.ofList (List.replicate 256 'a')]⟩
    (tree.replace Tag.ofNumber [] path "x").result = .error (.fault .nameTooLong) ∧
      tree.isDirectory [] path.parent = true ∧
      (tree.replace Tag.ofNumber [] path "x").tree = tree := by
  intro tree path
  have hgen : tree.resolve [] ⟨.relative, ["gen"]⟩ = .ok ["gen"] := by decide +kernel
  have hd : tree.isDirectory [] path.parent = true := by decide +kernel
  obtain ⟨htaken, hreplace⟩ := replaceIn_longName rfl hgen
  have hmade := ensureDirectory_of_isDirectory hd
  have hfails : (tree.replace Tag.ofNumber [] path "x").result = .error (.fault .nameTooLong) := by
    rw [replace_eq_replaceIn htaken (by rw [hmade]), hmade, hreplace]
  obtain ⟨-, -, -, hsame⟩ := failed_replace_leaves hfails
  exact ⟨hfails, hd, hsame hd⟩

/-- A failed write leaves a directory that was not there: it makes the directory of its path, and
only then finds that the name is too long. -/
theorem failed_replace_leaves_directory :
    let path : Path := ⟨.relative, ["gen", String.ofList (List.replicate 256 'a')]⟩
    let after := (empty.replace Tag.ofNumber [] path "x").tree
    (empty.replace Tag.ofNumber [] path "x").result = .error (.fault .nameTooLong) ∧
      empty.find? ["gen"] = none ∧ after.find? ["gen"] = some .directory := by
  intro path after
  have hmade : (empty.ensureDirectory [] path.parent).result = .ok () := by decide +kernel
  have hgen : (empty.ensureDirectory [] path.parent).tree.resolve [] ⟨.relative, ["gen"]⟩ =
      .ok ["gen"] := by decide +kernel
  have hthere : (empty.ensureDirectory [] path.parent).tree.find? ["gen"] = some .directory := by
    decide +kernel
  obtain ⟨htaken, hreplace⟩ := replaceIn_longName rfl hgen
  have hattempt : empty.replace Tag.ofNumber [] path "x" =
      ⟨(empty.ensureDirectory [] path.parent).tree, .error (.fault .nameTooLong)⟩ := by
    rw [replace_eq_replaceIn htaken hmade, hreplace]
  refine ⟨by rw [hattempt], rfl, ?_⟩
  rw [show after = _ from congrArg Attempt.tree hattempt]
  exact hthere

end Tree

end HeaderEnum.Disk
