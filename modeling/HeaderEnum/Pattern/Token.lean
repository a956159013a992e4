import HeaderEnum.Crash
import HeaderEnum.Pattern.Fault
import HeaderEnum.Pattern.Node

/-!
# Reading a pattern token by token

A token is one character, or a backslash with the character after it. The reader always sees one
token ahead, so a lone backslash at the end is a fault as soon as the token before it is taken. What
a reader knows outlasts a fault, since notices given before it stay given.
-/

namespace HeaderEnum.Pattern

/-- One token of a pattern. -/
inductive Token where
  /-- A character by itself. -/
  | char (c : Char)
  /-- A character after a backslash. -/
  | escape (c : Char)
  deriving DecidableEq, Repr

/-- The token as it stands in the pattern. -/
def Token.spelled : Token → List Char
  | .char c => [c]
  | .escape c => ['\\', c]

/-- The tokens of a pattern, without a lone backslash at its end. -/
def tokensOf : List Char → List Token
  | [] => []
  | ['\\'] => []
  | '\\' :: c :: rest => .escape c :: tokensOf rest
  | c :: rest => .char c :: tokensOf rest

/-- A group that was opened. -/
structure OpenedGroup where
  /-- Its name, if it has one. -/
  name : Option String
  /-- Its width, once it is closed. -/
  width : Option Width
  deriving DecidableEq, Repr

/-- What a reader of a pattern knows. -/
structure Reading where
  /-- Tokens to come. -/
  tokens : List Token
  /-- Characters taken so far. -/
  place : Nat
  /-- A lone backslash follows the tokens. -/
  dangling : Bool
  /-- Flags for the whole pattern. -/
  flags : List Flag
  /-- Groups in the order of their opening; the first has number one. -/
  groups : List OpenedGroup
  /-- The number of the first group that a look behind may not refer to, inside one. -/
  lookBehind : Option Nat
  /-- Some look behind has no fixed width. -/
  uneven : Bool
  /-- Some look behind is too wide. -/
  overwide : Bool
  /-- Groups that conditions name by number, each with the place of its first mention. -/
  mentioned : List (Nat × Nat)
  /-- How many more parts may be opened inside this one. -/
  room : Nat
  /-- Notices given so far, in order. -/
  notices : List Notice
  deriving DecidableEq, Repr

/-- Reading a part of a pattern. -/
abbrev Reader := ExceptT (Halt Fault) (StateM Reading)

/-- Stop with a fault at a place. -/
def failAt {α : Type} (cause : Cause) (place : Nat) : Reader α :=
  throw (.fault ⟨cause, some place⟩)

/-- Stop with a fault so many characters before the next token. -/
def failBack {α : Type} (cause : Cause) (count : Nat) : Reader α := do
  failAt cause ((← get).place - count)

/-- Give a notice and go on. -/
def notify (notice : Notice) : Reader Unit :=
  modify fun reading => { reading with notices := reading.notices ++ [notice] }

/-- Read a part inside the one that is being read. -/
def inside {α : Type} (part : Reader α) : Reader α := do
  let room := (← get).room
  if room = 0 then throw (.crash (.deepNesting .parts))
  modify fun reading => { reading with room := room - 1 }
  let read ← part
  modify fun reading => { reading with room := room }
  return read

/-- The next token. -/
def peek : Reader (Option Token) := do return (← get).tokens.head?

/-- The next token is this character. -/
def sees (c : Char) : Reader Bool := do return (← peek) == some (.char c)

/-- Stop if a lone backslash comes next. -/
def refuseDangling : Reader Unit := do
  let reading ← get
  if reading.tokens.isEmpty && reading.dangling then failAt .danglingEscape reading.place

/-- Take the next token. -/
def take : Reader (Option Token) := do
  let reading ← get
  match reading.tokens with
  | [] => return none
  | token :: rest =>
    set { reading with tokens := rest, place := reading.place + token.spelled.length }
    refuseDangling
    return some token

/-- Take the next token if it is this character. -/
def accept (c : Char) : Reader Bool := do
  if ← sees c then
    let _ ← take
    return true
  else return false

/-- Take characters of a class, at most so many. -/
def takeUpTo (allowed : Char → Bool) : Nat → Reader (List Char)
  | 0 => return []
  | count + 1 => do
    match ← peek with
    | some (.char c) =>
      if allowed c then
        let _ ← take
        return c :: (← takeUpTo allowed count)
      else return []
    | _ => return []

/-- Take all characters of a class. -/
def takeAll (allowed : Char → Bool) : Reader (List Char) := do
  takeUpTo allowed (← get).tokens.length

/-- Take a name up to its terminator, which is taken too, after the characters of the name taken so
far; the bound limits the tokens looked at. -/
def takeNameFrom (terminator : Char) (missing : Cause) : Nat → List Char → Reader (List Char)
  | 0, name => return name
  | bound + 1, name => do
    match ← take with
    | none =>
      if name.isEmpty then failBack missing 0
      else failBack (.unterminatedName terminator) name.length
    | some token =>
      if token = .char terminator then
        if name.isEmpty then failBack missing 1 else return name
      else takeNameFrom terminator missing bound (name ++ token.spelled)

/-- Take a name up to its terminator, which is taken too. -/
def takeName (terminator : Char) (missing : Cause) : Reader (List Char) := do
  takeNameFrom terminator missing ((← get).tokens.length + 1) []

/-- A name that is an identifier, up to its terminator. -/
def takeGroupName (terminator : Char) : Reader String := do
  let name ← takeName terminator .missingGroupName
  if Letter.isIdentifier name then return String.ofList name
  else failBack (.badGroupName (String.ofList name)) (name.length + 1)

end HeaderEnum.Pattern
