import HeaderEnum.Proofs.Disk.Directories
import HeaderEnum.Proofs.Result

/-!
# Replacing a file

A replacement either gives the file that a path denotes its new bytes, or leaves every file as it
was. The scratch file is put where nothing is, so to erase it brings back the tree before it. A text
that cannot be encoded is found out too late: its scratch file stays. In all cases the only other
trace is a directory on the way. How far a write gets is told once, by a rule for each place where it
can end, and everything about it follows from these rules.
-/

namespace HeaderEnum.Disk

variable [Platform] {tree : Tree} {cwd : Place} {path : Path} {bytes : ByteArray}

/-- A path denotes a file with the bytes, and all other changes are directories on the way there. -/
def Replaced (before after : Tree) (cwd : Place) (path : Path) (bytes : ByteArray) : Prop :=
  ∃ place, after.resolve cwd path = .ok place ∧ after.find? place = some (.file bytes) ∧
    ChangesOnly before after cwd path.parent [place]

/-- A write was given up when its scratch file was there and still empty. -/
structure Abandoned (before after : Tree) (cwd : Place) (path : Path) (scratch : Place) : Prop where
  /-- Nothing was where the scratch file is. -/
  fresh : before.find? scratch = none
  /-- The scratch file is empty. -/
  empty : after.find? scratch = some (.file .empty)
  /-- All other changes are directories on the way. -/
  changes : ChangesOnly before after cwd path.parent [scratch]
  /-- The scratch file stands next to the file that it was made for. -/
  named : ∃ place tag, after.resolve cwd path.parent = .ok place ∧
    scratch = place ++ [Tree.scratchName path.lastName tag]

/-- What an attempt to write a text to the file of a path has come to. Only a text that cannot be
encoded leaves a scratch file. -/
inductive Tried (before : Tree) (cwd : Place) (path : Path) (text : String) :
    Attempt (Halt FileFault) → Prop
  /-- The file was replaced. -/
  | done {after : Tree} : path.crash? = none → Text.IsEncodable text →
    Replaced before after cwd path text.toUTF8 → Tried before cwd path text ⟨after, .ok ()⟩
  /-- No file was changed. -/
  | stopped {after : Tree} {halt : Halt FileFault} :
    (∀ fault, halt ≠ .crash (.unencodable fault)) → ChangesOnly before after cwd path.parent [] →
    Tried before cwd path text ⟨after, .error halt⟩
  /-- The scratch file stayed. -/
  | abandoned {after : Tree} {scratch : Place} {fault : Text.EncodeFault} :
    ¬Text.IsEncodable text → Abandoned before after cwd path scratch →
    Tried before cwd path text ⟨after, .error (.crash (.unencodable fault))⟩

/-- Writing a file where no directory is changes that file only. -/
theorem ChangesOnly.of_written {before after : Tree} {place : Place} (cwd : Place) (path : Path)
    (hd : before.isDirectoryAt place = false) (hw : after.find? place = some (.file bytes))
    (ho : ∀ other, other ≠ place → after.find? other = before.find? other) :
    ChangesOnly before after cwd path [place] := by
  refine ⟨Grows.of_one_place hd (by rw [hw]; rfl) ho, ?_, ?_⟩
  · intro other ha hb
    rw [Tree.eq_of_isDirectoryAt ho ha hb, Tree.isDirectoryAt, hw] at ha
    contradiction
  · intro other hm _
    rw [ho other fun he => hm (List.mem_singleton.mpr he)]

namespace Tree

/-- Nothing has a free scratch name. -/
theorem freeScratch?_eq_ok {tags : Nat → Tag} {root : Root} {place : Place} {name scratch : String}
    (h : tree.freeScratch? tags root place name = .ok scratch) :
    tree.find? (place ++ [scratch]) = none ∧ ∃ tag, scratch = scratchName name tag := by
  unfold freeScratch? at h
  split at h
  · contradiction
  · split at h
    · rename_i number hn
      have hfree := (passes_of_firstFrom? hn).1
      rw [← Except.ok.inj h]
      exact ⟨Option.isNone_iff_eq_none.mp hfree, tags number, rfl⟩
    · simp only [reduceCtorEq] at h

/-- A new file does not change the target of a path whose names before the last one lead somewhere
without it. -/
theorem HasTarget.of_put_file {source parent place : Place} {name : String}
    (hfree : tree.find? source = none) (hparent : tree.resolve cwd path.parent = .ok parent)
    (h : (tree.put source (.file bytes)).HasTarget cwd path place name) :
    tree.HasTarget cwd path place name := by
  have hplace : parent = place := by
    have hp := ((Grows.put (.file bytes) hfree).resolve hparent).symm.trans h.parent
    exact Except.ok.inj hp
  have hd := h.directory
  have hn : place ≠ source := by
    rintro rfl
    rw [isDirectoryAt, find?_put_self (ne_nil_of_find? hfree)] at hd
    contradiction
  rw [isDirectoryAt, find?_put_of_ne hn] at hd
  exact ⟨h.names, h.short, hplace ▸ hparent, hd, h.down⟩

/-- A file is moved to the target of the path, where no directory is. -/
theorem rename_eq_ok {source : Place} {moved : Tree}
    (h : tree.rename source bytes cwd path = .ok moved) :
    ∃ place name, tree.HasTarget cwd path place name ∧ isTooLong name = false ∧
      tree.isDirectoryAt (place ++ [name]) = false ∧
      moved = (tree.erase source).put (place ++ [name]) (.file bytes) := by
  unfold rename at h
  cases ht : tree.target? cwd path with
  | error fault =>
    simp only [ht] at h
    contradiction
  | ok target =>
    cases target with
    | none =>
      simp only [ht] at h
      contradiction
    | some target =>
      obtain ⟨place, name⟩ := target
      simp only [ht] at h
      split at h
      · contradiction
      · rename_i hl
        split at h
        · contradiction
        · rename_i hd
          cases h
          exact ⟨place, name, hasTarget_of_target? ht, by simpa using hl, by simpa using hd, rfl⟩

/-- A scratch file is moved to the target that the path has without it, and is gone. -/
theorem rename_put_eq_ok {source parent : Place} {after : Tree}
    (hfree : tree.find? source = none) (hparent : tree.resolve cwd path.parent = .ok parent)
    (h : (tree.put source (.file bytes)).rename source bytes cwd path = .ok after) :
    ∃ name, tree.HasTarget cwd path parent name ∧ isTooLong name = false ∧
      tree.isDirectoryAt (parent ++ [name]) = false ∧
      after = tree.put (parent ++ [name]) (.file bytes) := by
  obtain ⟨place, name, hfilled, hl, hd, rfl⟩ := rename_eq_ok h
  have ht : tree.HasTarget cwd path place name := hfilled.of_put_file hfree hparent
  have hplace : parent = place := Except.ok.inj (hparent.symm.trans ht.parent)
  subst hplace
  have hnone : tree.isDirectoryAt (parent ++ [name]) = false := by
    refine Bool.eq_false_iff.mpr fun hc => ?_
    have hf := (Grows.put (.file bytes) hfree).directory hc
    exact absurd (hd.symm.trans hf) Bool.false_ne_true
  exact ⟨name, ht, hl, hnone, by rw [erase_put (.file bytes) hfree]⟩

/-- A scratch file that is moved to where the path points replaces the file there. -/
theorem replaced_of_rename {source parent : Place} {after : Tree}
    (hfree : tree.find? source = none) (hparent : tree.resolve cwd path.parent = .ok parent)
    (h : (tree.put source (.file bytes)).rename source bytes cwd path = .ok after) :
    Replaced tree after cwd path bytes := by
  obtain ⟨name, ht, hl, hd, rfl⟩ := rename_put_eq_ok hfree hparent h
  have hwritten : (tree.put (parent ++ [name]) (.file bytes)).find? (parent ++ [name]) =
      some (.file bytes) := find?_put_self (by simp)
  have hchanges := ChangesOnly.of_written cwd path.parent hd hwritten fun _ => find?_put_of_ne
  have hresolve := ht.resolve hchanges.grows hl (by rw [hwritten]; rfl)
  exact ⟨parent ++ [name], hresolve, hwritten, hchanges⟩

/-- A scratch file that is filled with nothing and stays is all that is left of a write. -/
theorem abandoned_put {parent : Place} {scratch : String} {tag : Tag}
    (hfree : tree.find? (parent ++ [scratch]) = none)
    (hscratch : scratch = scratchName path.lastName tag)
    (hparent : tree.resolve cwd path.parent = .ok parent) :
    Abandoned tree (tree.put (parent ++ [scratch]) (.file .empty)) cwd path
      (parent ++ [scratch]) := by
  have hself : (tree.put (parent ++ [scratch]) (.file .empty)).find? (parent ++ [scratch]) =
      some (.file .empty) := find?_put_self (by simp)
  have hd : tree.isDirectoryAt (parent ++ [scratch]) = false := by
    rw [isDirectoryAt, hfree]
    rfl
  have hchanges := ChangesOnly.of_written cwd path.parent hd hself fun _ => find?_put_of_ne
  exact ⟨hfree, hself, hchanges, parent, tag, hchanges.grows.resolve hparent, by rw [hscratch]⟩

/-! ## The course of a write -/

/-- How far a write through a scratch file gets once its directory is there. -/
inductive CourseIn (tree : Tree) (tags : Nat → Tag) (cwd : Place) (path : Path) (text : String) :
    Attempt (Halt FileFault) → Prop
  /-- It fails, and the scratch file is gone if there was one. -/
  | failed {fault : FileFault} : CourseIn tree tags cwd path text ⟨tree, .error (.fault fault)⟩
  /-- The text has no bytes, and the scratch file is there. -/
  | crashed {parent : Place} {scratch : String} {fault : Text.EncodeFault} :
    tree.resolve cwd path.parent = .ok parent →
    tree.freeScratch? tags path.root parent path.lastName = .ok scratch →
    ¬Text.IsEncodable text →
    CourseIn tree tags cwd path text
      ⟨tree.put (parent ++ [scratch]) (.file .empty), .error (.crash (.unencodable fault))⟩
  /-- The scratch file is moved to where the path points. -/
  | moved {parent : Place} {scratch : String} {after : Tree} :
    tree.resolve cwd path.parent = .ok parent →
    tree.freeScratch? tags path.root parent path.lastName = .ok scratch →
    Text.IsEncodable text →
    (tree.put (parent ++ [scratch]) (.file text.toUTF8)).rename (parent ++ [scratch]) text.toUTF8
      cwd path = .ok after →
    CourseIn tree tags cwd path text ⟨after, .ok ()⟩

/-- A write through a scratch file keeps to its course. -/
theorem courseIn_replaceIn (tree : Tree) (tags : Nat → Tag) (cwd : Place) (path : Path)
    (text : String) : CourseIn tree tags cwd path text (tree.replaceIn tags cwd path text) := by
  unfold replaceIn
  cases hparent : tree.resolve cwd path.parent with
  | error fault => exact .failed
  | ok parent =>
    dsimp only
    cases hs : tree.freeScratch? tags path.root parent path.lastName with
    | error fault => exact .failed
    | ok scratch =>
      dsimp only
      by_cases henc : Text.IsEncodable text
      · rw [Text.encode_of_isEncodable henc]
        dsimp only
        cases hm : (tree.put (parent ++ [scratch]) (.file text.toUTF8)).rename
            (parent ++ [scratch]) text.toUTF8 cwd path with
        | ok after => exact .moved hparent hs henc hm
        | error fault =>
          dsimp only
          rw [erase_put (.file text.toUTF8) (freeScratch?_eq_ok hs).1]
          exact .failed
      · obtain ⟨fault, hfault⟩ := Text.encode_of_not_isEncodable henc
        rw [hfault]
        exact .crashed hparent hs henc

/-- How far a write gets. The directory of the path is made before anything is known of its name. -/
inductive Course (tree : Tree) (tags : Nat → Tag) (cwd : Place) (path : Path) (text : String) :
    Attempt (Halt FileFault) → Prop
  /-- The system does not take the path of the directory. -/
  | unmakable {crash : Crash} : path.parent.crash? = some crash →
    Course tree tags cwd path text ⟨tree, .error (.crash crash)⟩
  /-- The directory cannot be made. -/
  | unmade {fault : FileFault} :
    Course tree tags cwd path text
      ⟨(tree.ensureDirectory cwd path.parent).tree, .error (.fault fault)⟩
  /-- The system does not take the path. -/
  | untaken {crash : Crash} : path.crash? = some crash →
    Course tree tags cwd path text
      ⟨(tree.ensureDirectory cwd path.parent).tree, .error (.crash crash)⟩
  /-- The directory is there. -/
  | made {attempt : Attempt (Halt FileFault)} : path.crash? = none →
    CourseIn (tree.ensureDirectory cwd path.parent).tree tags cwd path text attempt →
    Course tree tags cwd path text attempt

/-- A write keeps to its course. -/
theorem course_replace (tree : Tree) (tags : Nat → Tag) (cwd : Place) (path : Path)
    (text : String) : Course tree tags cwd path text (tree.replace tags cwd path text) := by
  unfold replace
  cases hparent : path.parent.crash? with
  | some crash => exact .unmakable hparent
  | none =>
    dsimp only [Attempt.andThen, Attempt.mapError]
    cases hmade : (tree.ensureDirectory cwd path.parent).result with
    | error fault => exact .unmade
    | ok done =>
      dsimp only [mapError_ok]
      cases hpath : path.crash? with
      | some crash => exact .untaken hpath
      | none => exact .made hpath (courseIn_replaceIn _ tags cwd path text)

/-- A write with its directory there replaces the file, leaves the tree as it was, or gives up. -/
theorem CourseIn.tried {tags : Nat → Tag} {text : String} {attempt : Attempt (Halt FileFault)}
    (h : CourseIn tree tags cwd path text attempt) (htaken : path.crash? = none) :
    Tried tree cwd path text attempt := by
  cases h with
  | failed => exact .stopped nofun (.refl tree cwd path.parent)
  | crashed hparent hs henc =>
    obtain ⟨hfree, tag, hscratch⟩ := freeScratch?_eq_ok hs
    exact .abandoned henc (abandoned_put hfree hscratch hparent)
  | moved hparent hs henc hm =>
    exact .done htaken henc (replaced_of_rename (freeScratch?_eq_ok hs).1 hparent hm)

end Tree

/-- Directories that are made first are only more of the traces on the way. -/
theorem Tried.after {before middle : Tree} {text : String} {attempt : Attempt (Halt FileFault)}
    (hmade : ChangesOnly before middle cwd path.parent [])
    (h : Tried middle cwd path text attempt) : Tried before cwd path text attempt := by
  cases h with
  | done htaken henc hreplaced =>
    obtain ⟨place, hplace, hfile, hchanges⟩ := hreplaced
    exact .done htaken henc ⟨place, hplace, hfile, hmade.trans hchanges⟩
  | stopped hhalt hchanges => exact .stopped hhalt (hmade.trans hchanges)
  | @abandoned _ scratch fault henc hleft =>
    refine .abandoned henc ⟨?_, hleft.empty, hmade.trans hleft.changes, hleft.named⟩
    by_contra hthere
    have hpresent := hmade.grows.present (Option.isSome_iff_ne_none.mpr hthere)
    exact Option.isSome_iff_ne_none.mp hpresent hleft.fresh

/-- What the system does not take was no text. -/
theorem crash?_ne_unencodable {crash : Crash} (h : path.crash? = some crash)
    (fault : Text.EncodeFault) : (.crash crash : Halt FileFault) ≠ .crash (.unencodable fault) := by
  unfold Path.crash? at h
  split at h
  · cases h
    nofun
  · split at h
    · cases h
      nofun
    · contradiction

/-- Writing a text replaces the file that the path denotes, changes nothing but directories on the
way, or gives up with its scratch file. -/
theorem Tree.replace_spec (tree : Tree) (tags : Nat → Tag) (cwd : Place) (path : Path)
    (text : String) : Tried tree cwd path text (tree.replace tags cwd path text) := by
  have hmade := ensureDirectory_changesOnly tree cwd path.parent
  have hcourse := tree.course_replace tags cwd path text
  generalize tree.replace tags cwd path text = attempt at hcourse
  cases hcourse with
  | unmakable hc => exact .stopped (crash?_ne_unencodable hc) (.refl tree cwd path.parent)
  | unmade => exact .stopped nofun hmade
  | untaken hc => exact .stopped (crash?_ne_unencodable hc) hmade
  | made htaken hin => exact (hin.tried htaken).after hmade

end HeaderEnum.Disk
