import HeaderEnum.Disk.Replace
import HeaderEnum.Proofs.Path.NormalForm

/-!
# Rooted paths on a disk

A path with a root of its own leads to the same place from every working directory. What is read
through it, and what a write to it does, is therefore the same from every working directory.
-/

namespace HeaderEnum.Disk.Tree

variable {path : Path}

/-- A rooted path starts at the root directory. -/
theorem startOf_of_isRooted (h : path.IsRooted) (cwd : Place) : startOf cwd path = [] := if_neg h

/-- The directory above a rooted path is rooted. -/
theorem isRooted_parent (h : path.IsRooted) : path.parent.IsRooted := h

variable [Platform]

/-- A rooted path denotes the same place from everywhere. -/
theorem resolve_of_isRooted (h : path.IsRooted) (tree : Tree) (here there : Place) :
    tree.resolve here path = tree.resolve there path := by
  rw [resolve, resolve, startOf_of_isRooted h, startOf_of_isRooted h]

/-- A rooted path has the same target from everywhere. -/
theorem target?_of_isRooted (h : path.IsRooted) (tree : Tree) (here there : Place) :
    tree.target? here path = tree.target? there path := by
  unfold target?
  rw [resolve_of_isRooted (isRooted_parent h) tree here there]

/-- What is read through a rooted path is the same from everywhere. -/
theorem read_of_isRooted (h : path.IsRooted) (tree : Tree) (here there : Place) :
    tree.read here path = tree.read there path := by
  unfold read
  rw [resolve_of_isRooted h tree here there]

/-- Making one directory at a rooted path is the same from everywhere. -/
theorem makeMissing_of_isRooted (h : path.IsRooted) (tree : Tree) (here there : Place) :
    tree.makeMissing here path = tree.makeMissing there path := by
  unfold makeMissing makeDirectory isDirectory
  rw [target?_of_isRooted h tree here there, resolve_of_isRooted h tree here there]

/-- Making all directories along rooted names is the same from everywhere. -/
theorem makeAll_of_isRooted {root : Root} (h : root ≠ .relative) (names : List String) (tree : Tree)
    (here there : Place) : makeAll here root names tree = makeAll there root names tree := by
  have hrooted : ∀ names, (⟨root, names⟩ : Path).IsRooted := fun _ => h
  have hmissing : ∀ names, ∀ tree : Tree,
      tree.makeMissing here ⟨root, names⟩ = tree.makeMissing there ⟨root, names⟩ :=
    fun names tree => makeMissing_of_isRooted (hrooted names) tree here there
  induction names generalizing tree with
  | nil => exact hmissing [] tree
  | cons name above ih =>
    simp only [makeAll, hmissing, ih]

/-- A write to a rooted path is the same from everywhere. -/
theorem replace_of_isRooted (h : path.IsRooted) (tree : Tree) (tags : Nat → Tag)
    (here there : Place) (text : String) :
    tree.replace tags here path text = tree.replace tags there path text := by
  have hensure : tree.ensureDirectory here path.parent = tree.ensureDirectory there path.parent :=
    makeAll_of_isRooted h _ tree here there
  have hreplace : ∀ tree : Tree,
      tree.replaceIn tags here path text = tree.replaceIn tags there path text := by
    intro tree
    simp only [replaceIn, rename, resolve_of_isRooted (isRooted_parent h) tree here there,
      target?_of_isRooted h _ here there]
  rw [replace, replace, hensure]
  simp only [hreplace]

end HeaderEnum.Disk.Tree
