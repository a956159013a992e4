import HeaderEnum.Disk.Tree

/-!
# Scratch files

The names of scratch files. A scratch file stands next to the file that it is made for and has a
longer name, with a tag in it that is drawn by chance. Which tags are drawn is not known, so they are
given as a supply, and the first one of them that makes a free name is used.
-/

namespace HeaderEnum.Disk

/-- The letters of tags. -/
def tagLetters : List Char := "abcdefghijklmnopqrstuvwxyz0123456789_".toList

/-- How many letters a tag has. -/
def tagLength : Nat := 8

/-- A tag in the name of a scratch file. -/
structure Tag where
  /-- Its letters. -/
  letters : List Char
  /-- There are just so many of them. -/
  length_letters : letters.length = tagLength
  /-- They are letters of tags. -/
  mem_tagLetters : ∀ c ∈ letters, c ∈ tagLetters
  deriving DecidableEq, Repr

/-- The letter of a tag with a number. -/
def tagLetter (number : Nat) : Char :=
  tagLetters.get ⟨number % tagLetters.length, Nat.mod_lt _ (by decide)⟩

/-- The tag with a number; there are only so many tags. -/
def Tag.ofNumber (number : Nat) : Tag where
  letters := (List.range tagLength).map fun place => tagLetter (number / tagLetters.length.pow place)
  length_letters := by rw [List.length_map, List.length_range]
  mem_tagLetters := by
    intro c hc
    obtain ⟨place, -, rfl⟩ := List.mem_map.mp hc
    exact List.get_mem _ _

/-- The first number that passes a test, among so many from a given one on. -/
def firstFrom? (passes : Nat → Bool) : Nat → Nat → Option Nat
  | _, 0 => none
  | number, attempts + 1 =>
    if passes number then some number else firstFrom? passes (number + 1) attempts

/-- The first number passes. -/
theorem passes_of_firstFrom? {passes : Nat → Bool} {number attempts found : Nat}
    (h : firstFrom? passes number attempts = some found) :
    passes found = true ∧ found < number + attempts := by
  induction attempts generalizing number with
  | zero => contradiction
  | succ attempts ih =>
    rw [firstFrom?] at h
    split at h
    · rename_i hpasses
      cases h
      exact ⟨hpasses, Nat.lt_add_of_pos_right (Nat.succ_pos attempts)⟩
    · obtain ⟨hpasses, hlt⟩ := ih h
      exact ⟨hpasses, by omega⟩

/-- Where there is no first number, none passes. -/
theorem not_passes_of_firstFrom? {passes : Nat → Bool} {number attempts other : Nat}
    (h : firstFrom? passes number attempts = none) (hge : number ≤ other)
    (hlt : other < number + attempts) : passes other = false := by
  induction attempts generalizing number with
  | zero => omega
  | succ attempts ih =>
    rw [firstFrom?] at h
    split at h
    · contradiction
    · rename_i hfails
      by_cases he : number = other
      · rw [← he]
        exact Bool.eq_false_iff.mpr hfails
      · exact ih h (by omega) (by omega)

namespace Tree

/-- How many tags are tried for one scratch file. -/
def scratchAttempts : Nat := 238328

/-- The name of a scratch file for a name. -/
def scratchName (name : String) (tag : Tag) : String :=
  "." ++ name ++ "." ++ String.ofList tag.letters ++ ".tmp"

/-- A scratch name is longer than the name it is made for. -/
theorem scratchName_ne (name : String) (tag : Tag) : scratchName name tag ≠ name := by
  intro he
  have hl := congrArg String.length he
  simp only [scratchName, String.length_append] at hl
  have hpoint : ".".length = 1 := rfl
  omega

variable [Platform]

/-- The whole path of a file in a directory that a path leads to. Two slashes in front stay. -/
def wholePath (root : Root) (place : Place) (name : String) : Path :=
  ⟨if root = .doubled then .doubled else .absolute, place ++ [name]⟩

/-- A scratch file in a directory cannot be made, since its name or its path is too long. -/
def isScratchTooLong (root : Root) (place : Place) (scratch : String) : Bool :=
  isTooLong scratch || isPathTooLong (wholePath root place scratch)

/-- The first scratch name in a directory that nothing has. All of them are of one length. -/
def freeScratch? (tree : Tree) (tags : Nat → Tag) (root : Root) (place : Place) (name : String) :
    Except FileFault String :=
  if isScratchTooLong root place (scratchName name (tags 0)) then .error .nameTooLong
  else
    match firstFrom? (fun number =>
        (tree.find? (place ++ [scratchName name (tags number)])).isNone) 0 scratchAttempts with
    | some number => .ok (scratchName name (tags number))
    | none => .error .noScratch

end Tree

end HeaderEnum.Disk
