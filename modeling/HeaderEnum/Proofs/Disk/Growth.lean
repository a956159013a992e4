import HeaderEnum.Disk.Replace
import Mathlib.Data.List.Basic

/-!
# Growing trees

A tree grows when its directories stay directories and nothing vanishes from it. A walk that arrives
goes through directories and present places only, so it arrives at the same place in a grown tree,
and a path goes on denoting what it denoted.
-/

namespace HeaderEnum.Disk

variable {before after : Tree}

/-- The root is always there. -/
theorem Tree.ne_nil_of_find? {tree : Tree} {place : Place} (h : tree.find? place = none) :
    place ≠ [] := by
  rintro rfl
  contradiction

/-- Directories stay directories and nothing vanishes. -/
structure Grows (before after : Tree) : Prop where
  /-- What was a directory is one. -/
  directory : ∀ {place : Place}, before.isDirectoryAt place = true →
    after.isDirectoryAt place = true
  /-- Where something was, something is. -/
  present : ∀ {place : Place}, (before.find? place).isSome = true →
    (after.find? place).isSome = true

namespace Grows

/-- Trees with the same content grow into each other. -/
theorem of_find?_eq (h : ∀ place, after.find? place = before.find? place) : Grows before after := by
  constructor
  · intro place hd
    rwa [Tree.isDirectoryAt, h place]
  · intro place hp
    rwa [h place]

/-- Every tree grows into itself. -/
theorem refl (tree : Tree) : Grows tree tree := of_find?_eq fun _ => rfl

/-- Growth composes. -/
theorem trans {middle : Tree} (first : Grows before middle) (second : Grows middle after) :
    Grows before after :=
  ⟨fun h => second.directory (first.directory h), fun h => second.present (first.present h)⟩

/-- A tree grows when it differs at one place only, where no directory was and something is. -/
theorem of_one_place {place : Place} (hd : before.isDirectoryAt place = false)
    (hp : (after.find? place).isSome = true)
    (ho : ∀ other, other ≠ place → after.find? other = before.find? other) :
    Grows before after := by
  constructor
  · intro other h
    have hne : other ≠ place := by
      rintro rfl
      exact Bool.false_ne_true (hd.symm.trans h)
    rwa [Tree.isDirectoryAt, ho other hne]
  · intro other h
    by_cases he : other = place
    · rwa [he]
    · rwa [ho other he]

/-- A tree grows by what is put where nothing is. -/
theorem put {tree : Tree} {place : Place} (content : Content) (h : tree.find? place = none) :
    Grows tree (tree.put place content) := by
  have hd : tree.isDirectoryAt place = false := by
    rw [Tree.isDirectoryAt, h]
    rfl
  have hself : (tree.put place content).find? place = some content :=
    Tree.find?_put_self (Tree.ne_nil_of_find? h)
  exact of_one_place hd (by rw [hself]; rfl) fun other ho => Tree.find?_put_of_ne ho

variable [Platform]

/-- A step that succeeds leads to the same place in a grown tree. -/
theorem step (h : Grows before after) {here next : Place} {name : String}
    (hs : before.step here name = .ok next) : after.step here name = .ok next := by
  unfold Tree.step at hs ⊢
  split at hs
  · rename_i hd
    rw [if_pos (h.directory hd)]
    split at hs
    · rename_i hn
      rwa [if_pos hn]
    · rename_i hn
      rw [if_neg hn]
      split at hs
      · contradiction
      · rename_i hl
        rw [if_neg hl]
        split at hs
        · rename_i hp
          rwa [if_pos (h.present hp)]
        · contradiction
  · contradiction

/-- A walk that arrives leads to the same place in a grown tree. -/
theorem walk (h : Grows before after) {here place : Place} {names : List String}
    (hw : before.walk here names = .ok place) : after.walk here names = .ok place := by
  induction names generalizing here with
  | nil => exact hw
  | cons name rest ih =>
    rw [Tree.walk] at hw ⊢
    cases hs : before.step here name with
    | error fault =>
      simp only [hs] at hw
      contradiction
    | ok next =>
      simp only [hs] at hw
      simp only [h.step hs]
      exact ih hw

/-- A path goes on denoting its place in a grown tree. -/
theorem resolve (h : Grows before after) {cwd place : Place} {path : Path}
    (hr : before.resolve cwd path = .ok place) : after.resolve cwd path = .ok place := by
  rw [Tree.resolve] at hr ⊢
  split at hr
  · contradiction
  · rename_i hl
    rw [if_neg hl]
    exact h.walk hr

end Grows

namespace Tree

/-- When two trees differ at one place only, no directory is new anywhere else. -/
theorem eq_of_isDirectoryAt {place other : Place}
    (ho : ∀ other, other ≠ place → after.find? other = before.find? other)
    (ha : after.isDirectoryAt other = true) (hb : before.isDirectoryAt other = false) :
    other = place := by
  by_contra hne
  rw [isDirectoryAt, ho other hne] at ha
  exact Bool.false_ne_true (hb.symm.trans ha)

/-- Where nothing is, nothing is erased. -/
theorem erase_of_free {tree : Tree} {place : Place} (h : tree.find? place = none) :
    tree.erase place = tree := by
  rw [find?, if_neg (ne_nil_of_find? h), List.lookup_eq_none_iff] at h
  have hkeep : ∀ entry ∈ tree.contents, (entry.1 != place) = true := by
    intro entry hm
    rw [bne_comm]
    exact h entry hm
  rw [erase, List.filter_eq_self.mpr hkeep]

/-- To put something where nothing is and to erase it again leaves the tree as it was. -/
theorem erase_put {tree : Tree} {place : Place} (content : Content) (h : tree.find? place = none) :
    (tree.put place content).erase place = tree := by
  have hself : (tree.put place content).erase place = (tree.erase place).erase place := by
    simp only [erase, put, List.filter_cons, bne_self_eq_false, Bool.false_eq_true, if_false]
  rw [hself, erase_of_free h, erase_of_free h]

variable [Platform]

/-- A walk goes on with one step more. -/
theorem walk_concat {tree : Tree} {here place next : Place} {names : List String} {name : String}
    (hw : tree.walk here names = .ok place) (hs : tree.step place name = .ok next) :
    tree.walk here (names ++ [name]) = .ok next := by
  induction names generalizing here with
  | nil =>
    rw [walk] at hw
    cases hw
    simp only [List.nil_append, walk, hs]
  | cons first rest ih =>
    rw [walk] at hw
    rw [List.cons_append, walk]
    cases hf : tree.step here first with
    | error fault =>
      simp only [hf] at hw
      contradiction
    | ok middle =>
      simp only [hf] at hw
      exact ih hw

/-- What it takes for a path to have a target: it is not too long, what stands before its last name
denotes a directory, and that name leads down from there. -/
structure HasTarget (tree : Tree) (cwd : Place) (path : Path) (place : Place) (name : String) :
    Prop where
  /-- The name is the last one of the path. -/
  names : path.names = path.parent.names ++ [name]
  /-- The system takes the path. -/
  short : isPathTooLong path = false
  /-- The names before it lead to the place. -/
  parent : tree.resolve cwd path.parent = .ok place
  /-- A directory is at the place. -/
  directory : tree.isDirectoryAt place = true
  /-- The name does not lead back. -/
  down : name ≠ ".."

/-- A path whose target is found has that target. -/
theorem hasTarget_of_target? {tree : Tree} {cwd place : Place} {path : Path} {name : String}
    (h : tree.target? cwd path = .ok (some (place, name))) : tree.HasTarget cwd path place name := by
  unfold target? at h
  cases hn : path.names.getLast? with
  | none =>
    simp only [hn, Except.ok.injEq, reduceCtorEq] at h
  | some last =>
    simp only [hn] at h
    split at h
    · contradiction
    · rename_i hl
      cases hr : tree.resolve cwd path.parent with
      | error fault =>
        simp only [hr] at h
        contradiction
      | ok found =>
        simp only [hr] at h
        split at h
        · rename_i hd
          split at h
          · simp only [Except.ok.injEq, reduceCtorEq] at h
          · rename_i hdown
            simp only [Except.ok.injEq, Option.some.injEq, Prod.mk.injEq] at h
            obtain ⟨rfl, rfl⟩ := h
            exact ⟨(List.dropLast_append_getLast? last hn).symm, by simpa using hl, hr, hd, hdown⟩
        · contradiction

/-- In a grown tree a path denotes its target, once something is there. -/
theorem HasTarget.resolve {cwd place : Place} {path : Path} {name : String}
    (h : before.HasTarget cwd path place name) (hg : Grows before after)
    (hl : isTooLong name = false) (hp : (after.find? (place ++ [name])).isSome = true) :
    after.resolve cwd path = .ok (place ++ [name]) := by
  have hparent : after.resolve cwd path.parent = .ok place := hg.resolve h.parent
  rw [Tree.resolve] at hparent
  split at hparent
  · contradiction
  · have hstep : after.step place name = .ok (place ++ [name]) := by
      rw [step, if_pos (hg.directory h.directory), if_neg h.down, hl, if_neg Bool.false_ne_true,
        if_pos hp]
    have hwalk := walk_concat hparent hstep
    rw [Tree.resolve, h.short, if_neg Bool.false_ne_true, h.names]
    exact hwalk

end Tree

end HeaderEnum.Disk
