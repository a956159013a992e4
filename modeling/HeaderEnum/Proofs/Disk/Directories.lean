import HeaderEnum.Proofs.Disk.Growth

/-!
# Making directories

What making a directory with those above it may change, whether it succeeds or fails: files stay as
they are, and a new directory is one that some first names of the path denote afterwards. One attempt
to make a directory keeps to that, and so does the chain of attempts along the path.
-/

namespace HeaderEnum.Disk

variable [Platform] {before after : Tree} {cwd : Place} {path : Path}

/-- Between two trees directories stay, new directories are those that first names of a path denote,
and files are the same outside some written places. -/
structure ChangesOnly (before after : Tree) (cwd : Place) (path : Path) (written : List Place) :
    Prop where
  /-- Nothing vanishes. -/
  grows : Grows before after
  /-- A new directory is one on the path. -/
  named : ∀ place, after.isDirectoryAt place = true → before.isDirectoryAt place = false →
    ∃ names, names <+: path.names ∧ after.resolve cwd ⟨path.root, names⟩ = .ok place
  /-- A file elsewhere is there afterwards exactly when it was there before, with the same bytes. -/
  files : ∀ place, place ∉ written → ∀ bytes,
    after.find? place = some (.file bytes) ↔ before.find? place = some (.file bytes)

namespace ChangesOnly

/-- Trees with the same content are unchanged. -/
theorem of_find?_eq (cwd : Place) (path : Path)
    (h : ∀ place, after.find? place = before.find? place) :
    ChangesOnly before after cwd path [] := by
  refine ⟨Grows.of_find?_eq h, ?_, ?_⟩
  · intro place ha hb
    rw [Tree.isDirectoryAt, h place] at ha
    exact absurd (hb.symm.trans ha) Bool.false_ne_true
  · intro place _ bytes
    rw [h place]

/-- A tree is not changed between itself and itself. -/
theorem refl (tree : Tree) (cwd : Place) (path : Path) : ChangesOnly tree tree cwd path [] :=
  of_find?_eq cwd path fun _ => rfl

/-- Changes that write nothing may precede others. -/
theorem trans {middle : Tree} {written : List Place} (first : ChangesOnly before middle cwd path [])
    (second : ChangesOnly middle after cwd path written) :
    ChangesOnly before after cwd path written := by
  refine ⟨first.grows.trans second.grows, ?_, ?_⟩
  · intro place ha hb
    cases hm : middle.isDirectoryAt place with
    | false => exact second.named place ha hm
    | true =>
      obtain ⟨names, hn, hr⟩ := first.named place hm hb
      exact ⟨names, hn, second.grows.resolve hr⟩
  · intro place hp bytes
    rw [second.files place hp bytes, first.files place List.not_mem_nil bytes]

/-- What is changed along the first names of a path is changed along the path. -/
theorem along_longer {root : Root} {names all : List String} {written : List Place}
    (h : ChangesOnly before after cwd ⟨root, names⟩ written) (hp : names <+: all) :
    ChangesOnly before after cwd ⟨root, all⟩ written := by
  refine ⟨h.grows, ?_, h.files⟩
  intro place ha hb
  obtain ⟨first, hf, hr⟩ := h.named place ha hb
  exact ⟨first, hf.trans hp, hr⟩

/-- If each of two attempts changes nothing but directories, so do both in a row. -/
theorem andThen {ε : Type} {attempt : Attempt ε} {next : Tree → Attempt ε}
    (first : ChangesOnly before attempt.tree cwd path [])
    (second : ∀ tree, ChangesOnly tree (next tree).tree cwd path []) :
    ChangesOnly before (attempt.andThen next).tree cwd path [] := by
  rw [Attempt.andThen]
  split
  · exact first.trans (second attempt.tree)
  · exact first

end ChangesOnly

namespace Tree

/-- A directory is made at the target of its path, where nothing was. -/
theorem makeDirectory_eq_ok {tree made : Tree} (h : tree.makeDirectory cwd path = .ok made) :
    ∃ place name, tree.HasTarget cwd path place name ∧ isTooLong name = false ∧
      tree.find? (place ++ [name]) = none ∧ made = tree.put (place ++ [name]) .directory := by
  unfold makeDirectory at h
  cases ht : tree.target? cwd path with
  | error fault =>
    simp only [ht] at h
    contradiction
  | ok target =>
    cases target with
    | none =>
      simp only [ht] at h
      contradiction
    | some target =>
      obtain ⟨place, name⟩ := target
      simp only [ht] at h
      split at h
      · contradiction
      · rename_i hl
        split at h
        · contradiction
        · rename_i hp
          cases h
          exact ⟨place, name, hasTarget_of_target? ht, by simpa using hl, by simpa using hp, rfl⟩

/-- Making a directory adds that one directory to the tree. -/
theorem makeDirectory_changesOnly {tree made : Tree}
    (h : tree.makeDirectory cwd path = .ok made) : ChangesOnly tree made cwd path [] := by
  obtain ⟨place, name, ht, hl, hfree, rfl⟩ := makeDirectory_eq_ok h
  have hmade : (tree.put (place ++ [name]) .directory).find? (place ++ [name]) =
      some .directory := find?_put_self (ne_nil_of_find? hfree)
  have hg : Grows tree (tree.put (place ++ [name]) .directory) := .put .directory hfree
  refine ⟨hg, ?_, ?_⟩
  · intro other ha hb
    have ho : other = place ++ [name] := eq_of_isDirectoryAt (fun _ h => find?_put_of_ne h) ha hb
    refine ⟨path.names, List.prefix_rfl, ?_⟩
    rw [ho]
    exact ht.resolve hg hl (by rw [hmade]; rfl)
  · intro other _ bytes
    by_cases ho : other = place ++ [name]
    · rw [ho, hmade, hfree]
      simp
    · rw [find?_put_of_ne ho]

/-- An attempt to make a missing directory changes nothing but directories on its path. -/
theorem makeMissing_changesOnly (tree : Tree) (cwd : Place) (path : Path) :
    ChangesOnly tree (tree.makeMissing cwd path).tree cwd path [] := by
  rw [makeMissing]
  cases h : tree.makeDirectory cwd path with
  | ok made => exact makeDirectory_changesOnly h
  | error fault =>
    dsimp only
    split
    · exact .refl tree cwd path
    · exact .refl tree cwd path

/-- Attempts along a whole path change nothing but directories on it. -/
theorem makeAll_changesOnly (cwd : Place) (root : Root) (names : List String) (tree : Tree) :
    ChangesOnly tree (makeAll cwd root names tree).tree cwd ⟨root, names.reverse⟩ [] := by
  -- the names are taken from the last one back, so each recursive call is for a shorter path
  induction names generalizing tree with
  | nil => exact makeMissing_changesOnly tree cwd ⟨root, []⟩
  | cons name above ih =>
    have hp : above.reverse <+: (name :: above).reverse := by
      rw [List.reverse_cons]
      exact List.prefix_append _ _
    rw [makeAll]
    split
    · exact ((ih tree).along_longer hp).andThen fun middle => makeMissing_changesOnly middle cwd _
    · exact makeMissing_changesOnly tree cwd _

/-- To ensure that a path denotes a directory changes nothing but directories on it. -/
theorem ensureDirectory_changesOnly (tree : Tree) (cwd : Place) (path : Path) :
    ChangesOnly tree (tree.ensureDirectory cwd path).tree cwd path [] := by
  have h := makeAll_changesOnly cwd path.root path.names.reverse tree
  rwa [List.reverse_reverse] at h

end Tree

end HeaderEnum.Disk
