import HeaderEnum.Pattern.Token

/-!
# Reading flags

Letters for flags at the opening of a group: flags for the whole pattern, closed by a parenthesis,
or flags turned on and off for the group alone.
-/

namespace HeaderEnum.Pattern

/-- The flag of a letter. -/
def flagOf? : Char → Option Flag
  | 'i' => some .ignoreCase
  | 'm' => some .multiLine
  | 's' => some .dotAll
  | 'x' => some .verbose
  | 'a' => some .ascii
  | 'u' => some .unicode
  | 't' => some .template
  | _ => none

/-- Flags that choose the meaning of classes. -/
def Flag.isKind (flag : Flag) : Bool := flag == .ascii || flag == .unicode

/-- Letters that may begin a list of flags. -/
def startsFlags (c : Char) : Bool := c == '-' || c == 'L' || (flagOf? c).isSome

/-- What a list of flags says. -/
inductive FlagList where
  /-- Flags for the whole pattern. -/
  | whole (on : List Flag)
  /-- Flags for a group. -/
  | scoped (on off : List Flag)
  deriving DecidableEq, Repr

/-- A token that is no flag where one is expected. -/
def noFlag {α : Type} (token : Token) (otherwise : Cause) : Reader α :=
  let alphabetic := match token with
    | .char c => Letter.isLetter c
    | .escape _ => false
  failBack (if alphabetic then .unknownFlag else otherwise) token.spelled.length

/-- Flags to turn on, the first of which is given, with the character that ends them. -/
def flagsOn : Nat → Char → List Flag → Reader (List Flag × Char)
  | 0, c, on => return (on, c)
  | bound + 1, c, on => do
    match flagOf? c with
    | none => failBack .localeFlag 0
    | some flag =>
      if flag.isKind && on.any (fun other => other.isKind && other != flag) then
        failBack .incompatibleFlags 0
      let on := on ++ [flag]
      match ← take with
      | none => failBack .missingFlagEnd 0
      | some (.char next) =>
        if next = ')' || next = '-' || next = ':' then return (on, next)
        else if next = 'L' || (flagOf? next).isSome then flagsOn bound next on
        else noFlag (.char next) .missingFlagEnd
      | some token => noFlag token .missingFlagEnd

/-- Flags to turn off, the first of which is given, up to the colon. -/
def flagsOff : Nat → Char → List Flag → Reader (List Flag)
  | 0, _, off => return off
  | bound + 1, c, off => do
    match flagOf? c with
    | none => failBack .lockedFlag 0
    | some flag =>
      if flag.isKind then failBack .lockedFlag 0
      let off := off ++ [flag]
      match ← take with
      | none => failBack .missingColon 0
      | some (.char next) =>
        if next = ':' then return off
        else if next = 'L' || (flagOf? next).isSome then flagsOff bound next off
        else noFlag (.char next) .missingColon
      | some token => noFlag token .missingColon

/-- Flags to turn off after a minus that was just taken. -/
def flagsAfterMinus : Reader (List Flag) := do
  match ← take with
  | none => failBack .missingFlag 0
  | some (.char c) =>
    if c = 'L' || (flagOf? c).isSome then flagsOff ((← get).tokens.length + 1) c []
    else noFlag (.char c) .missingFlag
  | some token => noFlag token .missingFlag

/-- A list of flags whose first character was just taken. -/
def flagList (first : Char) : Reader FlagList := do
  let (on, ending) ←
    if first = '-' then pure ([], '-') else flagsOn ((← get).tokens.length + 1) first []
  if ending = ')' then
    modify fun reading => { reading with flags := reading.flags ++ on }
    return .whole on
  if on.contains .template then failBack .globalFlagOn 1
  let off ← if ending = '-' then flagsAfterMinus else pure []
  if off.contains .template then failBack .globalFlagOff 1
  if on.any off.contains then failBack .contradictoryFlag 1
  return .scoped on off

end HeaderEnum.Pattern
