import HeaderEnum.Pattern.CharacterSet
import HeaderEnum.Pattern.FlagList
import HeaderEnum.Pattern.Repetition
import HeaderEnum.Text.Split

/-!
# Reading a pattern

From the text of a pattern to its structure, or to the first fault from the left. A look behind
without a fixed width, or with too large a one, is noticed only when the whole text has been read.
-/

namespace HeaderEnum.Pattern

/-- Blanks that a verbose pattern may hold anywhere. -/
def isVerboseBlank (c : Char) : Bool :=
  [' ', '\t', '\n', '\r', '\x0b', '\x0c'].contains c

/-- Skip the rest of a verbose pattern's line. -/
def skipLine : Nat → Reader Unit
  | 0 => return ()
  | bound + 1 => do
    match ← take with
    | none => return ()
    | some (.char '\n') => return ()
    | some _ => skipLine bound

/-- Skip a comment up to its closing parenthesis; its group was opened at a place. -/
def skipComment (opening : Nat) : Nat → Reader Unit
  | 0 => return ()
  | bound + 1 => do
    match ← take with
    | none => failAt .unterminatedComment opening
    | some (.char ')') => return ()
    | some _ => skipComment opening bound

/-- Open a group and give it the next number. -/
def openGroup (name : Option String) : Reader Nat := do
  let reading ← get
  let number := reading.groups.length + 1
  if let some text := name then
    match reading.groups.findIdx? (·.name == some text) with
    | some earlier =>
      failBack (.redefinedGroup text number (earlier + 1)) (text.length + 1)
    | none => pure ()
  set { reading with groups := reading.groups ++ [OpenedGroup.mk name none] }
  return number

/-- Widths of the groups closed so far. -/
def Reading.groupWidth (reading : Reading) (number : Nat) : Width :=
  match reading.groups[number - 1]? with
  | some ⟨_, some width⟩ => width
  | _ => .exactly 0

/-- Close a group around its body. -/
def closeGroup (number : Nat) (body : Node) : Reader Node := do
  let reading ← get
  let width := body.width reading.groupWidth
  let groups := reading.groups.modify (number - 1) fun group => { group with width := some width }
  set { reading with groups := groups }
  return .group number body

/-- The least width that no look behind can have. -/
def lookBehindLimit : Nat := 0x80000000

/-- A look behind with the width of its body, or a note that it has none or too large a one. -/
def lookBehind (negated : Bool) (body : Node) : Reader Node := do
  let reading ← get
  match (body.width reading.groupWidth).fixed? with
  | some width =>
    if lookBehindLimit ≤ width then set { reading with overwide := true }
    return .behind negated width body
  | none =>
    set { reading with uneven := true }
    return .behind negated 0 body

/-- Take the closing parenthesis of the group opened at a place. -/
def expectClosing (opening : Nat) : Reader Unit := do
  unless ← accept ')' do failAt .unterminatedGroup opening

/-- A reference to a group by its name, which was announced by an equals sign. -/
def namedReference : Reader Node := do
  let name ← takeGroupName ')'
  match (← get).groups.findIdx? (·.name == some name) with
  | none => failBack (.unknownGroupName name) (name.length + 1)
  | some index =>
    match (← get).groups[index]? with
    | none => failBack (.unknownGroupName name) (name.length + 1)
    | some group => referenceTo (index + 1) group (name.length + 1)

/-- The number that a text denotes, whatever blanks surround it: digits of any script, single
underscores between them, and a sign that may be left out. -/
def wholeNumber? (text : List Char) : Option Int :=
  let bare := ((text.dropWhile Letter.isSpace).reverse.dropWhile Letter.isSpace).reverse
  let digits := match bare with
    | '+' :: rest => rest
    | '-' :: rest => rest
    | _ => bare
  let parts := Text.pieces (· == '_') digits
  let value : Int := parts.flatten.foldl (fun value c => value * 10 + Letter.decimalValue c) 0
  if parts.all (fun part => !part.isEmpty && part.all Letter.isDecimal)
      && parts.flatten.length ≤ digitLimit then
    some (if bare.head? = some '-' then -value else value)
  else none

/-- The least number that no group can have. -/
def groupLimit : Nat := 0x7FFFFFFF

/-- The group of a condition that names it by its number. The group may be opened later. -/
def numberedGroup (name : List Char) : Reader Nat := do
  let length := name.length + 1
  match wholeNumber? name with
  | some (.ofNat 0) => failBack .badGroupNumber length
  | some (.ofNat number) =>
    if groupLimit ≤ number then failBack (.invalidReference number) length
    modify fun reading =>
      if reading.mentioned.any (·.1 == number) then reading
      else { reading with mentioned := reading.mentioned ++ [(number, reading.place - length)] }
    return number
  | _ => failBack (.badGroupName (String.ofList name)) length

/-- The group of a condition, whose opening parenthesis was just taken. Inside a look behind it is
one that is closed and older than the look behind. -/
def conditionGroup : Reader Nat := do
  let name ← takeName ')' .missingGroupName
  let text := String.ofList name
  let number ←
    if Letter.isIdentifier name then
      match (← get).groups.findIdx? (·.name == some text) with
      | some index => pure (index + 1)
      | none => failBack (.unknownGroupName text) (name.length + 1)
    else numberedGroup name
  if let some first := (← get).lookBehind then
    if !((← groupOf? number).bind (·.width)).isSome then failBack .openReference 0
    if first ≤ number then failBack .lookBehindReference 0
  return number

/-- How a group opens. -/
inductive Opening where
  /-- A group whose text is kept. -/
  | capture (name : Option String)
  /-- A group for its structure, under changed flags. -/
  | scoped (on off : List Flag)
  /-- A group whose first match is final. -/
  | atomic
  /-- A look ahead or behind. -/
  | look (behind negated : Bool)
  /-- A condition on a group. -/
  | condition (number : Nat)
  /-- A reference, which is no group at all. -/
  | reference (node : Node)
  /-- A comment, which is skipped. -/
  | comment
  /-- Flags for the whole pattern. -/
  | flags
  deriving Repr

/-- The opening of a group whose parenthesis was just taken at a place. -/
def opening (place : Nat) : Reader Opening := do
  unless ← accept '?' do return .capture none
  match ← take with
  | none => failBack .unexpectedEnd 0
  | some (.char 'P') =>
    if ← accept '<' then return .capture (some (← takeGroupName '>'))
    else if ← accept '=' then return .reference (← namedReference)
    else match ← take with
      | none => failBack .unexpectedEnd 0
      | some token =>
        failBack (.unknownExtension ("P" ++ String.ofList token.spelled)) (token.spelled.length + 2)
  | some (.char ':') => return .scoped [] []
  | some (.char '>') => return .atomic
  | some (.char '=') => return .look false false
  | some (.char '!') => return .look false true
  | some (.char '(') => return .condition (← conditionGroup)
  | some (.char '#') =>
    skipComment place ((← get).tokens.length + 1)
    return .comment
  | some (.char '<') =>
    match ← take with
    | none => failBack .unexpectedEnd 0
    | some (.char '=') => return .look true false
    | some (.char '!') => return .look true true
    | some token =>
      failBack (.unknownExtension ("<" ++ String.ofList token.spelled)) (token.spelled.length + 2)
  | some (.char c) =>
    if startsFlags c then
      match ← flagList c with
      | .whole _ => return .flags
      | .scoped on off => return .scoped on off
    else failBack (.unknownExtension c.toString) 2
  | some token =>
    failBack (.unknownExtension (String.ofList token.spelled)) (token.spelled.length + 1)

/-- Parts in order, given the latest first; a group without number and flags is left open. -/
def finished (parts : List Node) : List Node :=
  parts.reverse.flatMap fun part => part.repeatable.parts

mutual

/-- Alternatives up to a closing parenthesis or the end. The depth is zero for the whole pattern,
and every step inward or onward takes one from the bound. -/
def alternatives [Platform] : Nat → Bool → Bool → List (List Node) → Reader Node
  | 0, _, _, _ => return .empty
  | bound + 1, nested, verbose, earlier => do
    let part ← sequence bound verbose (!nested && earlier.isEmpty) []
    let parts := earlier ++ [part]
    if ← accept '|' then
      let flags := (← get).flags
      alternatives bound nested (if nested then verbose else flags.contains .verbose) parts
    else return .ofList (partsOfAlternatives parts)

/-- Parts up to a bar, a closing parenthesis or the end, given those read so far, the latest first.
Flags for the whole pattern are welcome only before all parts of the first alternative. -/
def sequence [Platform] : Nat → Bool → Bool → List Node → Reader (List Node)
  | 0, _, _, parts => return finished parts
  | bound + 1, verbose, first, parts => do
    let place := (← get).place
    match ← peek with
    | none => return finished parts
    | some (.char '|') => return finished parts
    | some (.char ')') => return finished parts
    | some token =>
      let _ ← take
      match token with
      | .escape c => sequence bound verbose first ((← nodeEscape c) :: parts)
      | .char c =>
        if verbose && isVerboseBlank c then sequence bound verbose first parts
        else if verbose && c = '#' then
          skipLine ((← get).tokens.length + 1)
          sequence bound verbose first parts
        else match c with
          | '[' => sequence bound verbose first ((← characterSet) :: parts)
          | '.' => sequence bound verbose first (.any :: parts)
          | '^' => sequence bound verbose first (.anchor .lineStart :: parts)
          | '$' => sequence bound verbose first (.anchor .lineEnd :: parts)
          | '(' =>
            match ← opening place with
            | .comment => sequence bound verbose first parts
            | .reference node => sequence bound verbose first (node :: parts)
            | .flags =>
              if first && parts.isEmpty then
                sequence bound ((← get).flags.contains .verbose) first parts
              else failAt .lateFlags place
            | .capture name =>
              let number ← openGroup name
              let body ← inside (alternatives bound true verbose [])
              expectClosing place
              sequence bound verbose first ((← closeGroup number body) :: parts)
            | .scoped on off =>
              let blanks := (verbose || on.contains .verbose) && !off.contains .verbose
              let body ← inside (alternatives bound true blanks [])
              expectClosing place
              sequence bound verbose first (.scoped on off body :: parts)
            | .atomic =>
              let body ← inside (alternatives bound true verbose [])
              expectClosing place
              sequence bound verbose first (.atomic body :: parts)
            | .look false negated =>
              let body ← inside (alternatives bound true verbose [])
              expectClosing place
              sequence bound verbose first (.ahead negated body :: parts)
            | .look true negated =>
              let outer := (← get).lookBehind
              modify fun reading =>
                { reading with lookBehind := some (outer.getD (reading.groups.length + 1)) }
              let body ← inside (alternatives bound true verbose [])
              modify fun reading => { reading with lookBehind := outer }
              expectClosing place
              sequence bound verbose first ((← lookBehind negated body) :: parts)
            | .condition number =>
              let kept ← inside (sequence bound verbose false [])
              let missing ←
                if ← accept '|' then inside (sequence bound verbose false []) else pure []
              if ← sees '|' then failBack .manyBranches 0
              expectClosing place
              let part := Node.condition number (.ofList kept) (.ofList missing)
              sequence bound verbose first (part :: parts)
          | _ =>
            if c = '*' || c = '+' || c = '?' || c = '\x7b' then
              match ← boundsOf? c with
              | some bounds => sequence bound verbose first (← repeatLast place bounds parts)
              | none => sequence bound verbose first (.literal c.toNat :: parts)
            else sequence bound verbose first (.literal c.toNat :: parts)

end

end HeaderEnum.Pattern

namespace HeaderEnum

/-- A pattern: its text, its flags and its structure. -/
structure Pattern where
  /-- The pattern as it was written. -/
  text : String
  /-- The flags for the whole pattern. -/
  modes : Pattern.Modes
  /-- What the pattern matches. -/
  root : Pattern.Node
  /-- The fewest characters of a match. -/
  least : Nat
  deriving Repr

namespace Pattern

/-- The whole pattern, with nothing left over. -/
def whole [Platform] : Reader Node := do
  refuseDangling
  let root ← alternatives (2 * (← get).tokens.length + 3) false false []
  if (← peek).isSome then failBack .unbalanced 0
  let reading ← get
  if let some (number, place) := reading.mentioned.find? (reading.groups.length < ·.1) then
    failAt (.invalidReference number) place
  if reading.uneven then throw (.fault ⟨.unevenLookBehind, none⟩)
  if reading.overwide then throw (.crash .wideLookBehind)
  return root

/-- The state in which a text is read from its start. -/
def Reading.ofText (text : List Char) (room : Nat) : Reading where
  tokens := tokensOf text
  place := 0
  dangling := (text.reverse.takeWhile (· == '\\')).length % 2 == 1
  flags := []
  groups := []
  lookBehind := none
  uneven := false
  overwide := false
  mentioned := []
  room := room
  notices := []

/-- The structure of the pattern that a text denotes or the first fault in it, and what is known
about the pattern then. -/
def readWhole [Platform] (text : String) : Except (Halt Fault) Node × Reading :=
  whole.run (Reading.ofText text.toList (Platform.patternDepth text))

/-- The pattern that a text denotes, or the first fault in it. -/
def compile [Platform] (text : String) : Except (Halt Fault) Pattern :=
  match readWhole text with
  | (.ok root, reading) =>
    .ok ⟨text, Modes.change { } reading.flags [], root, (root.width reading.groupWidth).least⟩
  | (.error halt, _) => .error halt

/-- The notices that a text gives, also when it is no pattern. -/
def noticesOf [Platform] (text : String) : List Notice := (readWhole text).2.notices

end Pattern

end HeaderEnum
