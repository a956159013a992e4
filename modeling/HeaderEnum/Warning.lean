/-!
# Warnings

What a run reports without failing. A warning is a cause; its wording is in one place.
-/

namespace HeaderEnum

/-- A condition of the header that is worth a word but stops nothing. -/
inductive Warning where
  /-- A constant is defined again; the first definition counts. -/
  | repeated (constant : String)
  /-- Nothing is left of a constant's name without its affixes. -/
  | emptied (constant : String)
  /-- No constant of the header was selected. -/
  | noConstants
  deriving DecidableEq, Repr

/-- The wording of a warning. -/
def Warning.message : Warning → String
  | .repeated constant => "Duplicate #define " ++ constant ++ " found; keeping first occurrence"
  | .emptied constant =>
    "Skipping " ++ constant ++ ": name is empty after dropping prefix/suffix"
  | .noConstants => "No matching #define entries found"

end HeaderEnum
