import HeaderEnum.Disk.Scratch

/-!
# Replacing a file

Writing a file through a scratch file next to it, so that a reader sees either the old bytes or the
new ones. Missing directories on the way are made first. When a later step fails the scratch file is
removed again, while directories made before stay. Nothing removes it after a crash: a text that has
no bytes leaves it behind, and it is empty.
-/

namespace HeaderEnum.Disk

/-- A tree after an attempt to change it, and whether the attempt succeeded. -/
structure Attempt (ε : Type) where
  /-- The tree afterwards. -/
  tree : Tree
  /-- Success, or the reason of the failure. -/
  result : Except ε Unit

namespace Attempt

variable {ε δ : Type}

/-- Go on with the next step after a success. -/
def andThen (attempt : Attempt ε) (next : Tree → Attempt ε) : Attempt ε :=
  match attempt.result with
  | .ok () => next attempt.tree
  | .error _ => attempt

/-- The attempt with the reason of a failure in other words. -/
def mapError (change : ε → δ) (attempt : Attempt ε) : Attempt δ :=
  ⟨attempt.tree, attempt.result.mapError change⟩

end Attempt

namespace Tree

variable [Platform]

/-- The directory of a path's last name, and that name; a path without names has none. -/
def target? (tree : Tree) (cwd : Place) (path : Path) :
    Except FileFault (Option (Place × String)) :=
  match path.names.getLast? with
  | none => .ok none
  | some name =>
    if isPathTooLong path then .error .nameTooLong
    else match tree.resolve cwd path.parent with
    | .error fault => .error fault
    | .ok place =>
      if tree.isDirectoryAt place then .ok (if name = ".." then none else some (place, name))
      else .error .notDirectory

/-- Make one directory. -/
def makeDirectory (tree : Tree) (cwd : Place) (path : Path) : Except FileFault Tree :=
  match tree.target? cwd path with
  | .error fault => .error fault
  | .ok none => .error .alreadyExists
  | .ok (some (place, name)) =>
    if isTooLong name then .error .nameTooLong
    else if (tree.find? (place ++ [name])).isSome then .error .alreadyExists
    else .ok (tree.put (place ++ [name]) .directory)

/-- Make one directory, unless it is there already. -/
def makeMissing (tree : Tree) (cwd : Place) (path : Path) : Attempt FileFault :=
  match tree.makeDirectory cwd path with
  | .ok made => ⟨made, .ok ()⟩
  | .error fault =>
    if fault ≠ .notFound && tree.isDirectory cwd path then ⟨tree, .ok ()⟩
    else ⟨tree, .error fault⟩

/-- Make a directory with all missing directories above it, given its names from the last to the
first. -/
def makeAll (cwd : Place) (root : Root) : List String → Tree → Attempt FileFault
  | [], tree => tree.makeMissing cwd ⟨root, []⟩
  | name :: above, tree =>
    let path : Path := ⟨root, (name :: above).reverse⟩
    match tree.makeMissing cwd path with
    | ⟨_, .error .notFound⟩ =>
      (makeAll cwd root above tree).andThen fun tree => tree.makeMissing cwd path
    | attempt => attempt

/-- Make the directory that a path denotes, unless it is there already. -/
def ensureDirectory (tree : Tree) (cwd : Place) (path : Path) : Attempt FileFault :=
  makeAll cwd path.root path.names.reverse tree

/-- Move the file at a place to where a path points, in the stead of a file there. -/
def rename (tree : Tree) (source : Place) (bytes : ByteArray) (cwd : Place) (path : Path) :
    Except FileFault Tree :=
  match tree.target? cwd path with
  | .error fault => .error fault
  | .ok none => .error .busy
  | .ok (some (place, name)) =>
    if isTooLong name then .error .nameTooLong
    else if tree.isDirectoryAt (place ++ [name]) then .error .isDirectory
    else .ok ((tree.erase source).put (place ++ [name]) (.file bytes))

/-- Write a text through a scratch file in the directory of a path. -/
def replaceIn (tree : Tree) (tags : Nat → Tag) (cwd : Place) (path : Path) (text : String) :
    Attempt (Halt FileFault) :=
  match tree.resolve cwd path.parent with
  | .error fault => ⟨tree, .error (.fault fault)⟩
  | .ok place =>
    match tree.freeScratch? tags path.root place path.lastName with
    | .error fault => ⟨tree, .error (.fault fault)⟩
    | .ok scratch =>
      let source := place ++ [scratch]
      match Text.encode text with
      | .error fault => ⟨tree.put source (.file .empty), .error (.crash (.unencodable fault))⟩
      | .ok bytes =>
        let filled := tree.put source (.file bytes)
        match filled.rename source bytes cwd path with
        | .ok moved => ⟨moved, .ok ()⟩
        | .error fault => ⟨filled.erase source, .error (.fault fault)⟩

/-- Write a text to the file that a path denotes. -/
def replace (tree : Tree) (tags : Nat → Tag) (cwd : Place) (path : Path) (text : String) :
    Attempt (Halt FileFault) :=
  match path.parent.crash? with
  | some crash => ⟨tree, .error (.crash crash)⟩
  | none =>
    ((tree.ensureDirectory cwd path.parent).mapError .fault).andThen fun tree =>
      match path.crash? with
      | some crash => ⟨tree, .error (.crash crash)⟩
      | none => tree.replaceIn tags cwd path text

end Tree

end HeaderEnum.Disk
