import HeaderEnum.Text.Encoding

/-!
# Crashes

Conditions that the program does not foresee. A fault is reported in words of the program; a crash
ends the run where it stands, and the platform says in words of its own what happened.
-/

namespace HeaderEnum

/-- What lies too deep inside each other. -/
inductive Nesting where
  /-- The objects of a JSON text. -/
  | objects
  /-- The arrays of a JSON text. -/
  | arrays
  /-- The parts of a pattern. -/
  | parts
  deriving DecidableEq, Repr

/-- A condition that nothing in the program handles. -/
inductive Crash where
  /-- A text has no bytes. -/
  | unencodable (fault : Text.EncodeFault)
  /-- A path has no bytes. -/
  | unencodablePath
  /-- A path holds a null character. -/
  | nullCharacter
  /-- A whole number has more digits than the platform reads. -/
  | longNumber (digits : Nat)
  /-- Nesting is deeper than the platform follows. -/
  | deepNesting (nesting : Nesting)
  /-- A bound of a repetition is too large. -/
  | largeBound
  /-- A look behind is too wide. -/
  | wideLookBehind
  /-- A flag was given a value that is none. -/
  | hollowValue
  /-- The word for the log level means something else. -/
  | misusedLevel (word : String)
  deriving DecidableEq, Repr

/-- Why something stops early. -/
inductive Halt (ε : Type) where
  /-- A fault that the program reports. -/
  | fault (reason : ε)
  /-- A crash. -/
  | crash (crash : Crash)
  deriving DecidableEq, Repr

/-- The reason in other words. -/
def Halt.map {ε δ : Type} (change : ε → δ) : Halt ε → Halt δ
  | .fault reason => .fault (change reason)
  | .crash cause => .crash cause

/-- The crash, if it is one. -/
def Halt.crash? {ε : Type} : Halt ε → Option Crash
  | .fault _ => none
  | .crash cause => some cause

end HeaderEnum
