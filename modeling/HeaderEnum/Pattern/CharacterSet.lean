import HeaderEnum.Pattern.Alternatives
import HeaderEnum.Pattern.Escape

/-!
# Reading a character set

The members of a set between brackets: characters, ranges and classes. A closing bracket in the
first place and a hyphen in the last stand for themselves, and a set of one character is that
character. What looks like a set inside the set, or like an operation on sets, is worth a notice.
-/

namespace HeaderEnum.Pattern

/-- The set member that a token stands for. -/
def memberOf [Platform] : Token → Reader SetItem
  | .char c => return .code c.toNat
  | .escape c => setEscape c

/-- A range between two members, which were spelled by the given tokens. -/
def rangeOf (firstToken lastToken : Token) (first last : SetItem) : Reader SetItem := do
  let bad : Reader SetItem :=
    failBack (.badRange (String.ofList firstToken.spelled) (String.ofList lastToken.spelled))
      (firstToken.spelled.length + 1 + lastToken.spelled.length)
  match first, last with
  | .code low, .code high => if high < low then bad else return .range low high
  | _, _ => bad

/-- Give a notice if a member's first character and the next token may be meant as an operation. -/
def noticeOperation (members : List SetItem) : Token → Reader Unit
  | .char c => do
    if !members.isEmpty && ['-', '&', '~', '|'].contains c && (← sees c) then
      notify (.setOperation c ((← get).place - 1))
  | .escape _ => return ()

/-- Give a notice if a range that ends with this token may be meant as a difference. -/
def noticeDifference (lastToken : Token) : Reader Unit := do
  if lastToken = .char '-' then notify (.setOperation '-' ((← get).place - 2))

/-- Members up to the closing bracket of the set that was opened at a place. Each member takes a
token, so as many rounds as there are tokens suffice. -/
def membersFrom [Platform] (opening : Nat) : Nat → List SetItem → Reader (List SetItem)
  | 0, members => return members
  | bound + 1, members => do
    match ← take with
    | none => failAt .unterminatedSet opening
    | some token =>
      if token = .char ']' && !members.isEmpty then return members
      else
        noticeOperation members token
        let first ← memberOf token
        if ← accept '-' then
          match ← take with
          | none => failAt .unterminatedSet opening
          | some (.char ']') => return members ++ [first, .code '-'.toNat]
          | some lastToken =>
            noticeDifference lastToken
            let range ← rangeOf token lastToken first (← memberOf lastToken)
            membersFrom opening bound (members ++ [range])
        else membersFrom opening bound (members ++ [first])

/-- A set whose opening bracket was just taken. -/
def characterSet [Platform] : Reader Node := do
  let opening := (← get).place - 1
  if ← sees '[' then notify (.nestedSet (opening + 1))
  let negated ← accept '^'
  let members ← membersFrom opening ((← get).tokens.length + 1) []
  match negated, distinctItems members with
  | false, [.code code] => return .literal code
  | _, items => return .set negated items

end HeaderEnum.Pattern
