import HeaderEnum.Crash
import HeaderEnum.Text.Split

/-!
# Paths

A path is a root and the names below it. Empty names and single dots vanish when a path is read, and
a double dot stays, since it is for the disk to say where it leads. A path may hold characters that
the system takes in no name.
-/

namespace HeaderEnum

/-- Where a path starts. -/
inductive Root where
  /-- At the working directory. -/
  | relative
  /-- At the root directory. -/
  | absolute
  /-- At the root directory, written with exactly two slashes. -/
  | doubled
  deriving DecidableEq, Repr

/-- A path in normal form. -/
structure Path where
  /-- Where it starts. -/
  root : Root
  /-- The names to follow from there. -/
  names : List String
  deriving DecidableEq, Repr

namespace Path

/-- The root that a number of leading slashes means. -/
def rootOf (slashes : Nat) : Root :=
  if slashes = 0 then .relative else if slashes = 2 then .doubled else .absolute

/-- A name that leads somewhere else. -/
def isProper (name : String) : Bool := name != "" && name != "."

/-- The path that a text denotes. -/
def ofString (text : String) : Path where
  root := rootOf (text.toList.takeWhile (· == '/')).length
  names := ((Text.pieces (· == '/') text.toList).map String.ofList).filter isProper

/-- The text of a root. -/
def rootText : Root → String
  | .relative => ""
  | .absolute => "/"
  | .doubled => "//"

/-- The text of a path; the empty path is a dot. -/
def toText (path : Path) : String :=
  if path.root = .relative && path.names.isEmpty then "."
  else rootText path.root ++ Text.joinWith "/" path.names

/-- A path read from another one; one with a root of its own is left alone. -/
def below (path base : Path) : Path :=
  if path.root = .relative then ⟨base.root, base.names ++ path.names⟩ else path

/-- The path without its last name. -/
def parent (path : Path) : Path := ⟨path.root, path.names.dropLast⟩

/-- The last name of a path, and nothing for a path without names. -/
def lastName (path : Path) : String := path.names.getLast?.getD ""

/-- All characters of a path's names. -/
def characters (path : Path) : List Char := path.names.flatMap String.toList

/-- What happens to whatever hands the path to the system, if the system does not take it. -/
def crash? [Platform] (path : Path) : Option Crash :=
  if path.characters.any Text.isUnnamable then some .unencodablePath
  else if path.characters.contains '\x00' then some .nullCharacter
  else none

/-- The system takes a character in a path. -/
def isTaken [Platform] (c : Char) : Bool := !Text.isUnnamable c && c != '\x00'

/-- The system takes a path when it takes all its characters. -/
theorem crash?_eq_none_iff [Platform] {path : Path} :
    path.crash? = none ↔ path.characters.all isTaken = true := by
  have hall : path.characters.all isTaken = true ↔
      ∀ c ∈ path.characters, Text.isUnnamable c = false ∧ c ≠ '\x00' := by
    simp [List.all_eq_true, isTaken]
  rw [crash?, hall]
  split
  · rename_i h
    obtain ⟨c, hc, hbad⟩ := List.any_eq_true.mp h
    exact iff_of_false nofun fun hall => Bool.false_ne_true ((hall c hc).1.symm.trans hbad)
  · rename_i hnamable
    split
    · rename_i h
      exact iff_of_false nofun fun hall => (hall _ (List.contains_iff_mem.mp h)).2 rfl
    · rename_i hnull
      refine iff_of_true rfl fun c hc => ⟨?_, ?_⟩
      · exact Bool.eq_false_iff.mpr fun h => hnamable (List.any_eq_true.mpr ⟨c, hc, h⟩)
      · rintro rfl
        exact hnull (List.contains_iff_mem.mpr hc)

/-- The path that a text denotes, read from a base. -/
def resolve (text : String) (base : Path) : Path := (ofString text).below base

end Path

end HeaderEnum
