import HeaderEnum.Proofs.Disk.Replacement

/-!
# Sequences of writes

Writes one after another, each of which may fail, act on the files of a tree like updates of a map.
A file that some write reached holds the text of the last write that reached it, and every other
file is there afterwards exactly when it was there before. Paths may repeat, and different paths may
lead to one place: what a write reached is the place that its path denotes, and no later write
changes that. The only files left over are empty scratch files of texts that cannot be encoded.
Nothing is said about directories here.
-/

namespace HeaderEnum.Disk

/-- A text to be written to a path. -/
structure Write where
  /-- The path to write to. -/
  path : Path
  /-- The text to write. -/
  text : String
  /-- The tags that are drawn for its scratch file. -/
  tags : Nat → Tag

/-- A write that has been tried. -/
structure Trial where
  /-- What was to be written. -/
  write : Write
  /-- The tree that the write started from. -/
  before : Tree
  /-- The tree that the write left, and whether it succeeded. -/
  attempt : Attempt (Halt FileFault)

section

variable [Platform]

namespace Trial

/-- Try a write on a tree. -/
def ofWrite (tree : Tree) (cwd : Place) (write : Write) : Trial :=
  ⟨write, tree, tree.replace write.tags cwd write.path write.text⟩

/-- The write succeeded. -/
def succeeded (trial : Trial) : Bool :=
  match trial.attempt.result with
  | .ok () => true
  | .error _ => false

/-- The write crashed over its text and left a new, empty file at a place. -/
structure Leaves (trial : Trial) (place : Place) : Prop where
  /-- It crashed over its text. -/
  crashed : ∃ fault, trial.attempt.result = .error (.crash (.unencodable fault))
  /-- Nothing was there. -/
  fresh : trial.before.find? place = none
  /-- An empty file is there. -/
  empty : trial.attempt.tree.find? place = some (.file .empty)

/-- The path of a write denotes a place in a tree. -/
def reaches (trial : Trial) (tree : Tree) (cwd place : Place) : Bool :=
  match tree.resolve cwd trial.write.path with
  | .ok found => found == place
  | .error _ => false

/-- A write reaches a place when its path denotes it. -/
theorem reaches_iff {trial : Trial} {tree : Tree} {cwd place : Place} :
    trial.reaches tree cwd place = true ↔ tree.resolve cwd trial.write.path = .ok place := by
  rw [reaches]
  cases tree.resolve cwd trial.write.path with
  | ok found => simp
  | error fault => simp

end Trial

namespace Tree

/-- Writes tried one after another, each on the tree that the one before it left. -/
def trials (cwd : Place) : Tree → List Write → List Trial
  | _, [] => []
  | tree, write :: rest =>
    let trial := Trial.ofWrite tree cwd write
    trial :: trials cwd trial.attempt.tree rest

/-- The tree that the last of all writes leaves. -/
def writeAll (cwd : Place) : Tree → List Write → Tree
  | tree, [] => tree
  | tree, write :: rest => writeAll cwd (Trial.ofWrite tree cwd write).attempt.tree rest

/-- The writes that succeed, in order. -/
def done (cwd : Place) (tree : Tree) (writes : List Write) : List Trial :=
  (trials cwd tree writes).filter Trial.succeeded

/-- The last write that reaches a place. -/
def lastTo? (tree : Tree) (cwd : Place) (writes : List Trial) (place : Place) : Option Trial :=
  writes.reverse.find? fun trial => trial.reaches tree cwd place

/-- A write counts for a place unless a later one reaches it too. -/
theorem lastTo?_cons (tree : Tree) (cwd : Place) (first : Trial) (rest : List Trial)
    (place : Place) : tree.lastTo? cwd (first :: rest) place =
      (tree.lastTo? cwd rest place).or
        (if first.reaches tree cwd place then some first else none) := by
  rw [lastTo?, List.reverse_cons, List.find?_append, List.find?_singleton]
  rfl

/-- No write is the last one to reach a place only if none reaches it. -/
theorem lastTo?_eq_none_iff {tree : Tree} {cwd : Place} {writes : List Trial} {place : Place} :
    tree.lastTo? cwd writes place = none ↔
      ∀ trial ∈ writes, tree.resolve cwd trial.write.path ≠ .ok place := by
  simp only [lastTo?, List.find?_eq_none, List.mem_reverse, Trial.reaches_iff, ne_eq]

end Tree

/-- What some successful writes have done to the files of a tree, and where files are left over. -/
structure Updates (before after : Tree) (cwd : Place) (writes : List Trial) (left : Place → Prop) :
    Prop where
  /-- Nothing vanishes. -/
  grows : Grows before after
  /-- The path of each write still denotes the place that the write reached. -/
  reached : ∀ trial ∈ writes, ∃ place,
    trial.attempt.tree.resolve cwd trial.write.path = .ok place ∧
      after.resolve cwd trial.write.path = .ok place
  /-- The system takes the path of each write. -/
  taken : ∀ trial ∈ writes, trial.write.path.crash? = none
  /-- A place that was reached holds the text of the last write to it. -/
  latest : ∀ place last, after.lastTo? cwd writes place = some last →
    after.find? place = some (.file last.write.text.toUTF8)
  /-- Any other file is there afterwards exactly when it was there before, with the same bytes, or
  when it is left over. -/
  others : ∀ place, after.lastTo? cwd writes place = none → ∀ bytes,
    after.find? place = some (.file bytes) ↔
      before.find? place = some (.file bytes) ∨ bytes = .empty ∧ left place

namespace Updates

variable {before middle after : Tree} {cwd : Place} {writes : List Trial} {left : Place → Prop}

/-- Without writes nothing is done. -/
theorem nil (tree : Tree) (cwd : Place) : Updates tree tree cwd [] fun _ => False where
  grows := .refl tree
  reached := nofun
  taken := nofun
  latest := nofun
  others := by simp

/-- The places where files are left over can be told in another way. -/
theorem left_congr {other : Place → Prop} (h : Updates before after cwd writes left)
    (he : ∀ place, left place ↔ other place) : Updates before after cwd writes other where
  grows := h.grows
  reached := h.reached
  taken := h.taken
  latest := h.latest
  others := by simpa only [he] using h.others

/-- A failed write before others changes no file. -/
theorem cons_stopped {path : Path} (first : ChangesOnly before middle cwd path [])
    (rest : Updates middle after cwd writes left) : Updates before after cwd writes left where
  grows := first.grows.trans rest.grows
  reached := rest.reached
  taken := rest.taken
  latest := rest.latest
  others := fun place hnone bytes => by
    rw [rest.others place hnone bytes, first.files place List.not_mem_nil bytes]

/-- A write given up before others leaves its scratch file over. -/
theorem cons_abandoned {path : Path} {scratch : Place}
    (first : Abandoned before middle cwd path scratch)
    (rest : Updates middle after cwd writes left) :
    Updates before after cwd writes fun place => place = scratch ∨ left place where
  grows := first.changes.grows.trans rest.grows
  reached := rest.reached
  taken := rest.taken
  latest := rest.latest
  others := fun place hnone bytes => by
    rw [rest.others place hnone bytes]
    by_cases he : place = scratch
    · have hiff : (some (Content.file .empty) = some (Content.file bytes)) ↔ bytes = .empty := by
        simp [eq_comm]
      rw [he, first.empty, first.fresh, hiff]
      simp only [reduceCtorEq, false_or, true_or, and_true, or_iff_left_iff_imp, and_imp]
      exact fun h _ => h
    · rw [first.changes.files place (fun hm => he (List.mem_singleton.mp hm)) bytes]
      simp [he]

/-- A successful write before others decides about the file that it reaches, unless one of the
others reaches it again. -/
theorem cons_done {trial : Trial} (htaken : trial.write.path.crash? = none)
    (first : Replaced before trial.attempt.tree cwd trial.write.path trial.write.text.toUTF8)
    (rest : Updates trial.attempt.tree after cwd writes left) :
    Updates before after cwd (trial :: writes) left := by
  obtain ⟨place, hplace, hfile, hchanges⟩ := first
  have hafter : after.resolve cwd trial.write.path = .ok place := rest.grows.resolve hplace
  refine ⟨hchanges.grows.trans rest.grows, ?_, List.forall_mem_cons.mpr ⟨htaken, rest.taken⟩,
    ?_, ?_⟩
  · intro other hm
    rcases List.mem_cons.mp hm with rfl | hm
    · exact ⟨place, hplace, hafter⟩
    · exact rest.reached other hm
  · intro other last hlast
    rw [Tree.lastTo?_cons] at hlast
    cases hlater : after.lastTo? cwd writes other with
    | some later =>
      rw [hlater, Option.some_or] at hlast
      rw [← Option.some.inj hlast]
      exact rest.latest other later hlater
    | none =>
      rw [hlater, Option.none_or, Option.ite_none_right_eq_some] at hlast
      obtain ⟨hreaches, he⟩ := hlast
      cases he
      have ho : other = place := by
        have h := (Trial.reaches_iff.mp hreaches).symm.trans hafter
        exact Except.ok.inj h
      subst ho
      exact (rest.others other hlater _).mpr (.inl hfile)
  · intro other hnone bytes
    rw [Tree.lastTo?_cons, Option.or_eq_none_iff] at hnone
    obtain ⟨hlater, hfirst⟩ := hnone
    have ho : other ∉ [place] := by
      intro hm
      rw [List.mem_singleton.mp hm, if_pos (Trial.reaches_iff.mpr hafter)] at hfirst
      contradiction
    rw [rest.others other hlater bytes, hchanges.files other ho bytes]

/-- After the writes, the path of each denotes a file with the text of the last write to it. -/
theorem read (h : Updates before after cwd writes left) {trial : Trial} (hm : trial ∈ writes) :
    ∃ place last, trial.attempt.tree.resolve cwd trial.write.path = .ok place ∧
      after.resolve cwd trial.write.path = .ok place ∧
      after.lastTo? cwd writes place = some last ∧
      after.read cwd trial.write.path = .ok last.write.text.toUTF8 := by
  obtain ⟨place, hplace, hafter⟩ := h.reached trial hm
  cases hlast : after.lastTo? cwd writes place with
  | none => exact absurd hafter (Tree.lastTo?_eq_none_iff.mp hlast trial hm)
  | some last =>
    refine ⟨place, last, hplace, hafter, hlast, ?_⟩
    have hfile := h.latest place last hlast
    simp only [Tree.read, h.taken trial hm, hafter, hfile]

end Updates

namespace Trial

/-- A write that was given up leaves its scratch file and nothing else. -/
theorem leaves_iff {trial : Trial} {cwd scratch place : Place} {fault : Text.EncodeFault}
    (hr : trial.attempt.result = .error (.crash (.unencodable fault)))
    (h : Abandoned trial.before trial.attempt.tree cwd trial.write.path scratch) :
    trial.Leaves place ↔ place = scratch := by
  constructor
  · intro hleaves
    by_contra hne
    have hsame := h.changes.files place (fun hm => hne (List.mem_singleton.mp hm)) .empty
    have hthere := hsame.mp hleaves.empty
    rw [hleaves.fresh] at hthere
    contradiction
  · rintro rfl
    exact ⟨⟨fault, hr⟩, h.fresh, h.empty⟩

/-- What one write has come to. -/
inductive Ended (trial : Trial) (cwd : Place) : Prop
  /-- It succeeded and replaced its file. -/
  | done : trial.succeeded = true → trial.write.path.crash? = none →
    Replaced trial.before trial.attempt.tree cwd trial.write.path trial.write.text.toUTF8 →
    (∀ place, ¬trial.Leaves place) → Ended trial cwd
  /-- It changed no file. -/
  | stopped : trial.succeeded = false →
    ChangesOnly trial.before trial.attempt.tree cwd trial.write.path.parent [] →
    (∀ place, ¬trial.Leaves place) → Ended trial cwd
  /-- It was given up and left its scratch file. -/
  | abandoned {scratch : Place} : trial.succeeded = false → ¬Text.IsEncodable trial.write.text →
    Abandoned trial.before trial.attempt.tree cwd trial.write.path scratch →
    (∀ place, trial.Leaves place ↔ place = scratch) → Ended trial cwd

/-- What an attempt has come to is how its write ended. -/
theorem ended_of_tried {trial : Trial} {cwd : Place}
    (h : Tried trial.before cwd trial.write.path trial.write.text trial.attempt) :
    trial.Ended cwd := by
  obtain ⟨write, before, attempt⟩ := trial
  cases h with
  | done htaken _ hreplaced => exact .done rfl htaken hreplaced fun _ h => nomatch h.crashed
  | stopped hhalt hchanges =>
    refine .stopped rfl hchanges fun _ h => ?_
    obtain ⟨fault, hfault⟩ := h.crashed
    exact hhalt fault (Except.error.inj hfault)
  | abandoned henc hleft => exact .abandoned rfl henc hleft fun _ => leaves_iff rfl hleft

/-- Every write ends in one of these ways. -/
theorem ended_ofWrite (tree : Tree) (cwd : Place) (write : Write) :
    (ofWrite tree cwd write).Ended cwd :=
  ended_of_tried (tree.replace_spec write.tags cwd write.path write.text)

end Trial

/-- The writes of a sequence that succeed are all that changes files, but for scratch files that are
left over. -/
theorem Tree.updates_writeAll (tree : Tree) (cwd : Place) (writes : List Write) :
    Updates tree (tree.writeAll cwd writes) cwd (tree.done cwd writes)
      fun place => ∃ trial ∈ trials cwd tree writes, trial.Leaves place := by
  -- on the writes from the first on, since each one starts from the tree that was left before it
  induction writes generalizing tree with
  | nil => exact (Updates.nil tree cwd).left_congr (by simp [trials])
  | cons write rest ih =>
    have hrest := ih (Trial.ofWrite tree cwd write).attempt.tree
    rw [writeAll, done, trials]
    simp only [List.exists_mem_cons_iff]
    cases Trial.ended_ofWrite tree cwd write with
    | done hs htaken hreplaced hnone =>
      rw [List.filter_cons_of_pos hs]
      exact (hrest.cons_done htaken hreplaced).left_congr (by simp [hnone])
    | stopped hs hchanges hnone =>
      rw [List.filter_cons_of_neg (by simp [hs])]
      exact (hrest.cons_stopped hchanges).left_congr (by simp [hnone])
    | abandoned hs _ hleft hiff =>
      rw [List.filter_cons_of_neg (by simp [hs])]
      exact (hrest.cons_abandoned hleft).left_congr (by simp [hiff])

/-- Every trial of a sequence is a write tried on some tree. -/
theorem Tree.ended_of_mem_trials {tree : Tree} {cwd : Place} {writes : List Write} {trial : Trial}
    (h : trial ∈ trials cwd tree writes) : trial.write ∈ writes ∧ trial.Ended cwd := by
  induction writes generalizing tree with
  | nil => contradiction
  | cons write rest ih =>
    rw [trials] at h
    rcases List.mem_cons.mp h with rfl | h
    · exact ⟨List.mem_cons_self, Trial.ended_ofWrite tree cwd write⟩
    · obtain ⟨hm, hended⟩ := ih h
      exact ⟨List.mem_cons_of_mem _ hm, hended⟩

/-- A file is left over only by a text that cannot be encoded, under a scratch name next to the file
that was to be written. -/
theorem Trial.Ended.named_of_leaves {trial : Trial} {cwd place : Place} (h : trial.Ended cwd)
    (hleaves : trial.Leaves place) : ¬Text.IsEncodable trial.write.text ∧ ∃ directory tag,
      trial.attempt.tree.resolve cwd trial.write.path.parent = .ok directory ∧
        place = directory ++ [Tree.scratchName trial.write.path.lastName tag] := by
  cases h with
  | done _ _ _ hnone => exact absurd hleaves (hnone place)
  | stopped _ _ hnone => exact absurd hleaves (hnone place)
  | abandoned _ henc hleft hiff =>
    rw [(hiff place).mp hleaves]
    exact ⟨henc, hleft.named⟩

/-- Any sequence of writes behaves like updates of a map from places to texts, but for scratch files.
The path of a write that succeeded denotes the place that it reached, then and at the end, and the
file there holds the text of the last successful write to that place. A file that no successful write
reached is there at the end exactly when it was there at the start, with the same bytes, or when it
is empty and a write left it over. Such a write had a text that cannot be encoded, and what it left is
its scratch file; if all texts can be encoded, none is left over. -/
theorem Tree.writeAll_behaves_like_updates (tree : Tree) (cwd : Place) (writes : List Write) :
    let after := tree.writeAll cwd writes
    let done := tree.done cwd writes
    let tried := trials cwd tree writes
    (∀ trial ∈ done, ∃ place last,
      trial.attempt.tree.resolve cwd trial.write.path = .ok place ∧
        after.resolve cwd trial.write.path = .ok place ∧
        after.lastTo? cwd done place = some last ∧
        after.read cwd trial.write.path = .ok last.write.text.toUTF8) ∧
      (∀ place, (∀ trial ∈ done, after.resolve cwd trial.write.path ≠ .ok place) → ∀ bytes,
        after.find? place = some (.file bytes) ↔
          tree.find? place = some (.file bytes) ∨
            bytes = .empty ∧ ∃ trial ∈ tried, trial.Leaves place) ∧
      (∀ trial ∈ tried, ∀ place, trial.Leaves place → trial.write ∈ writes ∧
        ¬Text.IsEncodable trial.write.text ∧ ∃ directory tag,
          trial.attempt.tree.resolve cwd trial.write.path.parent = .ok directory ∧
            place = directory ++ [scratchName trial.write.path.lastName tag]) ∧
      ((∀ write ∈ writes, Text.IsEncodable write.text) →
        ∀ place, (∀ trial ∈ done, after.resolve cwd trial.write.path ≠ .ok place) → ∀ bytes,
          after.find? place = some (.file bytes) ↔ tree.find? place = some (.file bytes)) := by
  intro after done tried
  have h := tree.updates_writeAll cwd writes
  have hothers : ∀ place, (∀ trial ∈ done, after.resolve cwd trial.write.path ≠ .ok place) →
      ∀ bytes, after.find? place = some (.file bytes) ↔
        tree.find? place = some (.file bytes) ∨
          bytes = .empty ∧ ∃ trial ∈ tried, trial.Leaves place := fun place hnone =>
    h.others place (lastTo?_eq_none_iff.mpr hnone)
  refine ⟨fun trial hm => h.read hm, hothers, ?_, ?_⟩
  · intro trial hm place hleaves
    obtain ⟨hwrite, hended⟩ := ended_of_mem_trials hm
    exact ⟨hwrite, hended.named_of_leaves hleaves⟩
  · intro henc place hnone bytes
    rw [hothers place hnone bytes, or_iff_left]
    rintro ⟨-, trial, hm, hleaves⟩
    obtain ⟨hwrite, hended⟩ := ended_of_mem_trials hm
    exact (hended.named_of_leaves hleaves).1 (henc trial.write hwrite)

end

/-- A single write of a lone surrogate succeeds in nothing, and yet leaves a file that was not there
and is not the one that was to be written. -/
theorem writeAll_leaves_scratch :
    let write : Write :=
      ⟨⟨.relative, ["a.swift"]⟩, String.singleton (Platform.standIn 0xD800), Tag.ofNumber⟩
    let scratch := Tree.scratchName "a.swift" (Tag.ofNumber 0)
    (Tree.empty.done [] [write]).length = 0 ∧ Tree.empty.find? [scratch] = none ∧
      (Tree.empty.writeAll [] [write]).find? [scratch] = some (.file .empty) := by
  decide +kernel

end HeaderEnum.Disk
