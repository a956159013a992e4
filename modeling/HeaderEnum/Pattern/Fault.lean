import HeaderEnum.Text.Quoted

/-!
# Faults of a pattern

Why a text is no search pattern, and where. The place is a count of characters before the fault; a
pattern of several lines also gets the line and the column. A notice stops nothing.
-/

namespace HeaderEnum.Pattern

/-- A reason why a text is no pattern. -/
inductive Cause where
  /-- A set without its closing bracket. -/
  | unterminatedSet
  /-- A group without its closing parenthesis. -/
  | unterminatedGroup
  /-- A closing parenthesis without a group. -/
  | unbalanced
  /-- A comment without its closing parenthesis. -/
  | unterminatedComment
  /-- A repetition without a part before it. -/
  | nothingToRepeat
  /-- A repetition of a repetition. -/
  | multipleRepeat
  /-- An upper bound below the lower one. -/
  | repeatOrder
  /-- A range whose ends are no characters or in the wrong order. -/
  | badRange (first last : String)
  /-- An escape without a meaning. -/
  | badEscape (escape : String)
  /-- A backslash at the end. -/
  | danglingEscape
  /-- Too few digits in an escape. -/
  | incompleteEscape (escape : String)
  /-- An octal escape beyond one byte. -/
  | octalTooLarge (escape : String)
  /-- An escape by name without its opening brace. -/
  | missingBrace
  /-- The name of a character is missing. -/
  | missingCharacterName
  /-- A name that no character has. -/
  | unknownCharacterName (name : String)
  /-- A reference to a group that does not exist. -/
  | invalidReference (number : Nat)
  /-- A reference to a group from its inside. -/
  | openReference
  /-- A reference to a group of the same look behind. -/
  | lookBehindReference
  /-- The pattern ends inside a group's opening. -/
  | unexpectedEnd
  /-- An opening of a group without a meaning. -/
  | unknownExtension (opening : String)
  /-- A group name is missing. -/
  | missingGroupName
  /-- A group name that is no identifier. -/
  | badGroupName (name : String)
  /-- A group name without its end. -/
  | unterminatedName (terminator : Char)
  /-- A reference to a name that no group has. -/
  | unknownGroupName (name : String)
  /-- The number zero for a group. -/
  | badGroupNumber
  /-- More than two parts of a condition. -/
  | manyBranches
  /-- A name that another group has. -/
  | redefinedGroup (name : String) (number earlier : Nat)
  /-- A look behind without a fixed width. -/
  | unevenLookBehind
  /-- Flags for the whole pattern after its start. -/
  | lateFlags
  /-- Flags without an end. -/
  | missingFlagEnd
  /-- No flag after the minus. -/
  | missingFlag
  /-- Flags turned off without a colon after them. -/
  | missingColon
  /-- A letter that is no flag. -/
  | unknownFlag
  /-- The flag for locales. -/
  | localeFlag
  /-- Two flags for the meaning of classes. -/
  | incompatibleFlags
  /-- A flag that cannot be turned off. -/
  | lockedFlag
  /-- A flag that holds for whole patterns only is turned on in a group. -/
  | globalFlagOn
  /-- A flag that holds for whole patterns only is turned off in a group. -/
  | globalFlagOff
  /-- A flag both turned on and off. -/
  | contradictoryFlag
  deriving DecidableEq, Repr

/-- The wording of a cause. -/
def Cause.message [Platform] : Cause → String
  | .unterminatedSet => "unterminated character set"
  | .unterminatedGroup => "missing ), unterminated subpattern"
  | .unbalanced => "unbalanced parenthesis"
  | .unterminatedComment => "missing ), unterminated comment"
  | .nothingToRepeat => "nothing to repeat"
  | .multipleRepeat => "multiple repeat"
  | .repeatOrder => "min repeat greater than max repeat"
  | .badRange first last => "bad character range " ++ first ++ "-" ++ last
  | .badEscape escape => "bad escape " ++ escape
  | .danglingEscape => "bad escape (end of pattern)"
  | .incompleteEscape escape => "incomplete escape " ++ escape
  | .octalTooLarge escape => "octal escape value " ++ escape ++ " outside of range 0-0o377"
  | .missingBrace => "missing \x7b"
  | .missingCharacterName => "missing character name"
  | .unknownCharacterName name => "undefined character name " ++ Text.quoted name
  | .invalidReference number => "invalid group reference " ++ toString number
  | .openReference => "cannot refer to an open group"
  | .lookBehindReference => "cannot refer to group defined in the same lookbehind subpattern"
  | .unexpectedEnd => "unexpected end of pattern"
  | .unknownExtension opening => "unknown extension ?" ++ opening
  | .missingGroupName => "missing group name"
  | .badGroupName name => "bad character in group name " ++ Text.quoted name
  | .unterminatedName terminator =>
    "missing " ++ terminator.toString ++ ", unterminated name"
  | .unknownGroupName name => "unknown group name " ++ Text.quoted name
  | .badGroupNumber => "bad group number"
  | .manyBranches => "conditional backref with more than two branches"
  | .redefinedGroup name number earlier =>
    "redefinition of group name " ++ Text.quoted name ++ " as group " ++ toString number
      ++ "; was group " ++ toString earlier
  | .unevenLookBehind => "look-behind requires fixed-width pattern"
  | .lateFlags => "global flags not at the start of the expression"
  | .missingFlagEnd => "missing -, : or )"
  | .missingFlag => "missing flag"
  | .missingColon => "missing :"
  | .unknownFlag => "unknown flag"
  | .localeFlag => "bad inline flags: cannot use 'L' flag with a str pattern"
  | .incompatibleFlags => "bad inline flags: flags 'a', 'u' and 'L' are incompatible"
  | .lockedFlag => "bad inline flags: cannot turn off flags 'a', 'u' and 'L'"
  | .globalFlagOn => "bad inline flags: cannot turn on global flag"
  | .globalFlagOff => "bad inline flags: cannot turn off global flag"
  | .contradictoryFlag => "bad inline flags: flag turned on and off"

/-- What the reader of a pattern takes for what it is and finds worth a notice. -/
inductive Notice where
  /-- A set begins with what may have been meant as another set. -/
  | nestedSet (place : Nat)
  /-- Two equal characters of a set may have been meant as an operation on sets. -/
  | setOperation (sign : Char) (place : Nat)
  deriving DecidableEq, Repr

/-- The operation on sets that a character may mean. -/
def operationTitle (sign : Char) : String :=
  if sign = '-' then "difference"
  else if sign = '&' then "intersection"
  else if sign = '~' then "symmetric difference"
  else "union"

/-- The wording of a notice. -/
def Notice.message : Notice → String
  | .nestedSet place => "Possible nested set at position " ++ toString place
  | .setOperation sign place =>
    "Possible set " ++ operationTitle sign ++ " at position " ++ toString place

/-- A cause and the place where it was noticed. -/
structure Fault where
  /-- What is wrong. -/
  cause : Cause
  /-- Characters before the place, for causes that have one. -/
  place : Option Nat
  deriving DecidableEq, Repr

/-- The wording of a fault of the given pattern. -/
def Fault.message [Platform] (pattern : String) (fault : Fault) : String :=
  match fault.place with
  | none => fault.cause.message
  | some place =>
    let before := pattern.toList.take place
    let line := before.count '\n' + 1
    let column := (before.reverse.takeWhile (· ≠ '\n')).length + 1
    let position := fault.cause.message ++ " at position " ++ toString place
    if pattern.toList.contains '\n' then
      position ++ " (line " ++ toString line ++ ", column " ++ toString column ++ ")"
    else position

end HeaderEnum.Pattern
