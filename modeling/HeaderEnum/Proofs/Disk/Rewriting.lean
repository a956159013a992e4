import HeaderEnum.Proofs.Disk.Replacement

/-!
# Writing a file again

A file can be written when the system takes its path, the path has a target, no directory stands
there, and its directory has a free scratch name. Writing through the scratch file makes none of this
false, and the scratch name is free again afterwards. A path that was written can therefore be written
again, with the same text or another one, and then nothing but that file can change: its directory is
there already. The text has to have bytes each time.
-/

namespace HeaderEnum.Disk

namespace Tree

variable [Platform] {tree : Tree} {cwd place : Place} {path : Path} {name : String}

/-! ## Directories that are there already -/

/-- A walk along one name more goes along the others first. -/
theorem walk_concat_eq_ok {here : Place} {names : List String}
    (h : tree.walk here (names ++ [name]) = .ok place) :
    ∃ above, tree.walk here names = .ok above ∧ tree.step above name = .ok place := by
  induction names generalizing here with
  | nil =>
    rw [List.nil_append, walk] at h
    cases hs : tree.step here name with
    | error fault => simp only [hs, reduceCtorEq] at h
    | ok next =>
      simp only [hs, walk] at h
      exact ⟨here, rfl, hs.trans h⟩
  | cons first rest ih =>
    rw [List.cons_append, walk] at h
    rw [walk]
    cases hs : tree.step here first with
    | error fault => simp only [hs, reduceCtorEq] at h
    | ok next =>
      simp only [hs] at h
      exact ih h

/-- A step down arrives only where something is. -/
theorem find?_of_step {here : Place} (hdown : name ≠ "..")
    (h : tree.step here name = .ok place) : (tree.find? (here ++ [name])).isSome = true := by
  rw [step, if_neg hdown] at h
  split at h
  · split at h
    · contradiction
    · split at h
      · rename_i hp
        exact hp
      · contradiction
  · contradiction

/-- A path that denotes a place leads there by its names. -/
theorem walk_of_resolve (h : tree.resolve cwd path = .ok place) :
    tree.walk (startOf cwd path) path.names = .ok place := by
  rw [resolve] at h
  split at h
  · contradiction
  · exact h

/-- The target of a path that denotes a place is not missing. -/
theorem target?_ne_notFound (h : tree.resolve cwd path = .ok place) :
    tree.target? cwd path ≠ .error .notFound := by
  intro ht
  unfold target? at ht
  cases hn : path.names.getLast? with
  | none => simp only [hn, reduceCtorEq] at ht
  | some last =>
    have hnames : path.names = path.parent.names ++ [last] :=
      (List.dropLast_append_getLast? last hn).symm
    have hwalk := walk_of_resolve h
    rw [hnames] at hwalk
    obtain ⟨above, habove, -⟩ := walk_concat_eq_ok hwalk
    have hparent : tree.walk (startOf cwd path.parent) path.parent.names = .ok above := habove
    -- every way to fail that is left has another fault
    simp only [hn, resolve, hparent] at ht
    grind

/-- At the target of a path that denotes a place, something is. -/
theorem HasTarget.find?_of_resolve {found : Place} (ht : tree.HasTarget cwd path place name)
    (h : tree.resolve cwd path = .ok found) : (tree.find? (place ++ [name])).isSome = true := by
  have hwalk := walk_of_resolve h
  rw [ht.names] at hwalk
  obtain ⟨above, habove, hstep⟩ := walk_concat_eq_ok hwalk
  have hplace : above = place := Except.ok.inj (habove.symm.trans (walk_of_resolve ht.parent))
  rw [hplace] at hstep
  exact find?_of_step ht.down hstep

/-- A directory that is there cannot be made, and not because something is missing. -/
theorem makeDirectory_of_isDirectory (h : tree.isDirectory cwd path = true) :
    ∃ fault, tree.makeDirectory cwd path = .error fault ∧ fault ≠ .notFound := by
  obtain ⟨found, hr⟩ : ∃ found, tree.resolve cwd path = .ok found := by
    rw [isDirectory] at h
    split at h
    · rename_i found hr
      exact ⟨found, hr⟩
    · contradiction
  rw [makeDirectory]
  cases ht : tree.target? cwd path with
  | error fault => exact ⟨fault, rfl, fun he => target?_ne_notFound hr (he ▸ ht)⟩
  | ok target =>
    cases target with
    | none => exact ⟨.alreadyExists, rfl, nofun⟩
    | some target =>
      obtain ⟨place, name⟩ := target
      have hthere := (hasTarget_of_target? ht).find?_of_resolve hr
      simp only [hthere, if_true]
      split
      · exact ⟨.nameTooLong, rfl, nofun⟩
      · exact ⟨.alreadyExists, rfl, nofun⟩

/-- A directory that is there is not missing. -/
theorem makeMissing_of_isDirectory (h : tree.isDirectory cwd path = true) :
    tree.makeMissing cwd path = ⟨tree, .ok ()⟩ := by
  obtain ⟨fault, hf, hn⟩ := makeDirectory_of_isDirectory h
  rw [makeMissing, hf]
  simp [hn, h]

/-- A directory that is there stays as it is, and so does the tree. -/
theorem ensureDirectory_of_isDirectory (h : tree.isDirectory cwd path = true) :
    tree.ensureDirectory cwd path = ⟨tree, .ok ()⟩ := by
  have hmissing := makeMissing_of_isDirectory h
  rw [ensureDirectory]
  cases hn : path.names.reverse with
  | nil =>
    have he : (⟨path.root, []⟩ : Path) = path := by
      rw [← List.reverse_eq_nil_iff.mp hn]
    rw [makeAll, he, hmissing]
  | cons last above =>
    have he : (⟨path.root, (last :: above).reverse⟩ : Path) = path := by
      rw [← hn, List.reverse_reverse]
    rw [makeAll, he]
    simp only [hmissing]

/-! ## Files that can be written -/

/-- A path that has a target has the one that is looked for. -/
theorem HasTarget.target?_eq (h : tree.HasTarget cwd path place name) :
    tree.target? cwd path = .ok (some (place, name)) := by
  have hlast : path.names.getLast? = some name := by
    rw [h.names]
    exact List.getLast?_concat
  unfold target?
  simp only [hlast, h.short, Bool.false_eq_true, if_false, h.parent, h.directory, if_true,
    if_neg h.down]

/-- A path keeps its target in a grown tree. -/
theorem HasTarget.of_grows {after : Tree} (h : tree.HasTarget cwd path place name)
    (hg : Grows tree after) : after.HasTarget cwd path place name :=
  ⟨h.names, h.short, hg.resolve h.parent, hg.directory h.directory, h.down⟩

/-- The last name of a path with a target is the target's name. -/
theorem HasTarget.lastName_eq (h : tree.HasTarget cwd path place name) : path.lastName = name := by
  rw [Path.lastName, h.names, List.getLast?_concat]
  rfl

/-- What stands before the last name of a path with a target denotes a directory. -/
theorem HasTarget.isDirectory_parent (h : tree.HasTarget cwd path place name) :
    tree.isDirectory cwd path.parent = true := by
  simp only [isDirectory, h.parent, h.directory]

/-- The system takes the directory of a path that it takes. -/
theorem crash?_parent (h : path.crash? = none) : path.parent.crash? = none := by
  rw [Path.crash?_eq_none_iff, List.all_eq_true] at h ⊢
  intro c hc
  obtain ⟨name, hname, hc⟩ := List.mem_flatMap.mp hc
  exact h c (List.mem_flatMap.mpr ⟨name, List.dropLast_subset _ hname, hc⟩)

/-- What it takes to write a file that a path denotes, once its directory is there. -/
structure IsWritable (tree : Tree) (cwd : Place) (path : Path) (place : Place) (name : String) :
    Prop where
  /-- The path has a target. -/
  target : tree.HasTarget cwd path place name
  /-- The system takes the path. -/
  taken : path.crash? = none
  /-- A directory can hold the name. -/
  fits : isTooLong name = false
  /-- No directory is there. -/
  free : tree.isDirectoryAt (place ++ [name]) = false

/-- What is put at a place that can be written is all that changes. -/
theorem IsWritable.grows_put (h : tree.IsWritable cwd path place name) (bytes : ByteArray) :
    Grows tree (tree.put (place ++ [name]) (.file bytes)) := by
  have hself : (tree.put (place ++ [name]) (.file bytes)).find? (place ++ [name]) =
      some (.file bytes) := find?_put_self (by simp)
  exact .of_one_place h.free (by rw [hself]; rfl) fun _ ho => find?_put_of_ne ho

section Write

variable {tags : Nat → Tag} {text scratch : String}

/-- A file that can be written is written, and nothing else is changed. -/
theorem IsWritable.replaceIn_eq (h : tree.IsWritable cwd path place name)
    (hs : tree.freeScratch? tags path.root place name = .ok scratch)
    (henc : Text.IsEncodable text) :
    tree.replaceIn tags cwd path text =
      ⟨tree.put (place ++ [name]) (.file text.toUTF8), .ok ()⟩ := by
  have hfree := (freeScratch?_eq_ok hs).1
  have hfilled := h.target.of_grows (Grows.put (.file text.toUTF8) hfree)
  have hd : (tree.put (place ++ [scratch]) (.file text.toUTF8)).isDirectoryAt (place ++ [name]) =
      false := by
    by_cases he : place ++ [name] = place ++ [scratch]
    · rw [he, isDirectoryAt, find?_put_self (ne_nil_of_find? hfree)]
      rfl
    · rw [isDirectoryAt, find?_put_of_ne he]
      exact h.free
  unfold replaceIn rename
  simp only [h.target.parent, h.target.lastName_eq, hs, Text.encode_of_isEncodable henc,
    hfilled.target?_eq, h.fits, hd, Bool.false_eq_true, if_false,
    erase_put (.file text.toUTF8) hfree]

/-- With its directory made, a file that the system takes is written in the tree with it. -/
theorem replace_eq_replaceIn (htaken : path.crash? = none)
    (hmade : (tree.ensureDirectory cwd path.parent).result = .ok ()) :
    tree.replace tags cwd path text =
      (tree.ensureDirectory cwd path.parent).tree.replaceIn tags cwd path text := by
  rw [replace, crash?_parent htaken]
  simp only [Attempt.mapError, Attempt.andThen, hmade, mapError_ok, htaken]

/-- With its directory there already, it is written in the tree as it is. -/
theorem HasTarget.replace_eq_replaceIn (h : tree.HasTarget cwd path place name)
    (htaken : path.crash? = none) :
    tree.replace tags cwd path text = tree.replaceIn tags cwd path text := by
  have hmade := ensureDirectory_of_isDirectory h.isDirectory_parent
  rw [Tree.replace_eq_replaceIn htaken (by rw [hmade]), hmade]

/-- After the file is written, it can be written as before. -/
theorem IsWritable.of_put (h : tree.IsWritable cwd path place name) (bytes : ByteArray) :
    (tree.put (place ++ [name]) (.file bytes)).IsWritable cwd path place name := by
  have hself : (tree.put (place ++ [name]) (.file bytes)).find? (place ++ [name]) =
      some (.file bytes) := find?_put_self (by simp)
  refine ⟨h.target.of_grows (h.grows_put bytes), h.taken, h.fits, ?_⟩
  rw [isDirectoryAt, hself]
  rfl

/-- A file that is written takes no scratch name of its own. -/
theorem freeScratch?_put (tags : Nat → Tag) (root : Root) (place : Place) (name : String)
    (content : Content) :
    (tree.put (place ++ [name]) content).freeScratch? tags root place name =
      tree.freeScratch? tags root place name := by
  have hscratch : ∀ tag, (tree.put (place ++ [name]) content).find?
      (place ++ [scratchName name tag]) = tree.find? (place ++ [scratchName name tag]) := by
    intro tag
    refine find?_put_of_ne fun he => ?_
    exact scratchName_ne name tag (by simpa using he)
  simp only [freeScratch?, hscratch]

/-- A path that was written holds the text and can be written again, and a scratch name that served
once serves again. -/
theorem replace_again (h : (tree.replace tags cwd path text).result = .ok ()) :
    let after := (tree.replace tags cwd path text).tree
    Text.IsEncodable text ∧ ∃ place name scratch, after.IsWritable cwd path place name ∧
      after.find? (place ++ [name]) = some (.file text.toUTF8) ∧
      after.freeScratch? tags path.root place name = .ok scratch := by
  have hcourse := tree.course_replace tags cwd path text
  generalize tree.replace tags cwd path text = attempt at h hcourse ⊢
  cases hcourse with
  | unmakable => exact nomatch h
  | unmade => exact nomatch h
  | untaken => exact nomatch h
  | made htaken hin =>
    cases hin with
    | failed => exact nomatch h
    | crashed => exact nomatch h
    | @moved parent scratch _ hparent hs henc hm =>
      obtain ⟨name, ht, hl, hd, rfl⟩ := rename_put_eq_ok (freeScratch?_eq_ok hs).1 hparent hm
      have hw : IsWritable _ cwd path parent name := ⟨ht, htaken, hl, hd⟩
      rw [ht.lastName_eq] at hs
      exact ⟨henc, parent, name, scratch, hw.of_put _, find?_put_self (by simp),
        (freeScratch?_put _ _ _ _ _).trans hs⟩

end Write

end Tree

end HeaderEnum.Disk
