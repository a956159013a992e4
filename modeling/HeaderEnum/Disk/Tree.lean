import HeaderEnum.Path
import HeaderEnum.Text.Utf8

/-!
# Trees of files

A disk as a tree of files and directories, looked at through the names that lead from the root to a
place. Walking along a path goes through directories only, and a double dot goes back to the one
above. Names and whole paths have a greatest length, and not every character can stand in them. Links
and permissions are not covered.
-/

namespace HeaderEnum.Disk

/-- Why a file cannot be read or written. -/
inductive FileFault where
  /-- Nothing is there. -/
  | notFound
  /-- A directory is there. -/
  | isDirectory
  /-- The way there leads through something that is no directory. -/
  | notDirectory
  /-- Something is there already. -/
  | alreadyExists
  /-- A name or a whole path is longer than the system takes. -/
  | nameTooLong
  /-- The place is no entry of a directory. -/
  | busy
  /-- Every scratch name that was tried is taken. -/
  | noScratch
  /-- The bytes are no text. -/
  | undecodable (fault : Text.Utf8Fault)
  /-- Another reason, in the words of the system. -/
  | other (reason : String)
  deriving DecidableEq, Repr

/-- The wording of a fault. -/
def FileFault.message : FileFault → String
  | .notFound => "No such file or directory"
  | .isDirectory => "Is a directory"
  | .notDirectory => "Not a directory"
  | .alreadyExists => "File exists"
  | .nameTooLong => "File name too long"
  | .busy => "Device or resource busy"
  | .noScratch => "No usable temporary file name found"
  | .undecodable fault => fault.message
  | .other reason => reason

/-- The names from the root to a place. -/
abbrev Place := List String

/-- What is at a place. -/
inductive Content where
  /-- A file with its bytes. -/
  | file (bytes : ByteArray)
  /-- A directory. -/
  | directory

/-- Files are equal when their bytes are. -/
instance : DecidableEq Content
  | .file first, .file second =>
    match first.decEq second with
    | isTrue h => isTrue (congrArg Content.file h)
    | isFalse h => isFalse fun he => h (Content.file.inj he)
  | .file _, .directory => isFalse nofun
  | .directory, .file _ => isFalse nofun
  | .directory, .directory => isTrue rfl

/-- A tree of files and directories below the root directory. -/
structure Tree where
  /-- Each place with what is there; the root is not listed. -/
  contents : List (Place × Content)
  deriving DecidableEq

namespace Tree

/-- The root directory alone. -/
def empty : Tree := ⟨[]⟩

/-- What is at a place. -/
def find? (tree : Tree) (place : Place) : Option Content :=
  if place = [] then some .directory else tree.contents.lookup place

/-- The tree without what is at a place. -/
def erase (tree : Tree) (place : Place) : Tree :=
  ⟨tree.contents.filter fun entry => entry.1 != place⟩

/-- The tree with something at a place, in the stead of what was there. -/
def put (tree : Tree) (place : Place) (content : Content) : Tree :=
  ⟨(place, content) :: (tree.erase place).contents⟩

/-- Erasing changes no other place. -/
theorem find?_erase_of_ne {tree : Tree} {place other : Place} (h : other ≠ place) :
    (tree.erase place).find? other = tree.find? other := by
  simp only [find?, erase]
  split
  · rfl
  · induction tree.contents with
    | nil => rfl
    | cons entry rest ih =>
      by_cases he : entry.1 = place
      · have hn : (other == entry.1) = false := beq_eq_false_iff_ne.mpr (he ▸ h)
        rw [List.filter_cons_of_neg (by simp [he]), List.lookup_cons, hn]
        exact ih
      · rw [List.filter_cons_of_pos (by simp [he]), List.lookup_cons, List.lookup_cons, ih]

/-- What was put at a place is there. -/
theorem find?_put_self {tree : Tree} {place : Place} {content : Content} (h : place ≠ []) :
    (tree.put place content).find? place = some content := by
  simp [find?, put, h]

/-- Putting something at a place changes no other place. -/
theorem find?_put_of_ne {tree : Tree} {place other : Place} {content : Content}
    (h : other ≠ place) : (tree.put place content).find? other = tree.find? other := by
  have hn : (other == place) = false := beq_eq_false_iff_ne.mpr h
  have he : (tree.erase place).find? other = tree.find? other := find?_erase_of_ne h
  simp only [find?] at he ⊢
  simpa [put, List.lookup_cons, hn] using he

/-- A directory is at a place. -/
def isDirectoryAt (tree : Tree) (place : Place) : Bool := tree.find? place == some .directory

section

variable [Platform]

/-- A name that no directory can hold. -/
def isTooLong (name : String) : Bool := 255 < Text.byteSize name

/-- One step from a place that has to be a directory. -/
def step (tree : Tree) (here : Place) (name : String) : Except FileFault Place :=
  if tree.isDirectoryAt here then
    if name = ".." then .ok here.dropLast
    else if isTooLong name then .error .nameTooLong
    else if (tree.find? (here ++ [name])).isSome then .ok (here ++ [name])
    else .error .notFound
  else .error .notDirectory

/-- The place that names lead to. -/
def walk (tree : Tree) : Place → List String → Except FileFault Place
  | here, [] => .ok here
  | here, name :: rest =>
    match tree.step here name with
    | .ok next => tree.walk next rest
    | .error fault => .error fault

/-- Where a path starts, from a working directory. -/
def startOf (cwd : Place) (path : Path) : Place :=
  if path.root = .relative then cwd else []

/-- A path that the system does not take, however its names are spread over directories. -/
def isPathTooLong (path : Path) : Bool := 4095 < Text.byteSize path.toText

/-- The place that a path denotes. -/
def resolve (tree : Tree) (cwd : Place) (path : Path) : Except FileFault Place :=
  if isPathTooLong path then .error .nameTooLong else tree.walk (startOf cwd path) path.names

/-- The bytes of the file that a path denotes. -/
def read (tree : Tree) (cwd : Place) (path : Path) : Except (Halt FileFault) ByteArray :=
  match path.crash? with
  | some crash => .error (.crash crash)
  | none =>
    match tree.resolve cwd path with
    | .error fault => .error (.fault fault)
    | .ok place =>
      match tree.find? place with
      | some (.file bytes) => .ok bytes
      | some .directory => .error (.fault .isDirectory)
      | none => .error (.fault .notFound)

/-- The path denotes a directory. -/
def isDirectory (tree : Tree) (cwd : Place) (path : Path) : Bool :=
  match tree.resolve cwd path with
  | .ok place => tree.isDirectoryAt place
  | .error _ => false

end

/-- Put something at a place below the given directories, with all directories on the way. -/
def plant (tree : Tree) (top : Place) (content : Content) : List String → Tree
  | [] => tree
  | [name] => tree.put (top ++ [name]) content
  | name :: rest =>
    let here := top ++ [name]
    (if tree.isDirectoryAt here then tree else tree.put here .directory).plant here content rest

/-- Everything below a place, each with the names that lead to it from there. -/
def below (tree : Tree) (top : Place) : List (List String × Content) :=
  tree.contents.filterMap fun (place, content) =>
    if top.isPrefixOf place && place != top then some (place.drop top.length, content) else none

end Tree

end HeaderEnum.Disk
