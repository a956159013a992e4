import HeaderEnum.Letter.Caseless
import HeaderEnum.Pattern.Node

/-!
# Characters under flags

Which characters a literal, a class or a character set stands for under the flags in force. When
case makes no difference, a character is compared in its small form; a set of several members does
so only if one of its members has a case, and takes its own members beyond U+FFFF as they are.
-/

namespace HeaderEnum.Pattern

/-- The blanks among the ASCII characters, without the information separators. -/
def isAsciiSpace (c : Char) : Bool :=
  c == ' ' || (0x09 ≤ c.toNat && c.toNat ≤ 0x0D)

/-- A character belongs to a class. -/
def Category.holds (modes : Modes) (c : Char) : Category → Bool
  | .digit => if modes.ascii then c.isDigit else Letter.isDecimal c
  | .space => if modes.ascii then isAsciiSpace c else Letter.isSpace c
  | .word => if modes.ascii then Letter.isAsciiWord c else Letter.isWord c

/-- The small form of a character. -/
def smallForm (modes : Modes) (c : Char) : Char :=
  if modes.ascii then c.toLower else Letter.lowerSimple c

/-- The small forms that count as the same letter as one of them. -/
def companions (modes : Modes) (c : Char) : List Char :=
  if modes.ascii then [c] else Letter.kindred c

/-- A code point is a character with another form in the other case. -/
def isCasedCode (modes : Modes) (code : Nat) : Bool :=
  code.isValidChar &&
    (if modes.ascii then (Char.ofNat code).isAlpha else Letter.hasCase (Char.ofNat code))

/-- The small forms that a code point counts as when case makes no difference. -/
def smallFormsOf (modes : Modes) (code : Nat) : List Char :=
  if code.isValidChar then companions modes (smallForm modes (Char.ofNat code)) else []

/-- The literal depends on letter case and the flags say that it makes no difference. -/
def isLiteralCaseless (modes : Modes) (code : Nat) : Bool :=
  modes.ignoreCase && isCasedCode modes code

/-- A character is what a literal stands for. -/
def literalHolds (modes : Modes) (code : Nat) (c : Char) : Bool :=
  if isLiteralCaseless modes code then (smallFormsOf modes code).contains (smallForm modes c)
  else c.toNat == code

/-- The last code point that a set compares in its small form. -/
def lastCaselessCode : Nat := 0xFFFF

/-- A set that holds this member reads letter case when the flags tell it to. -/
def SetItem.isCaseless (modes : Modes) : SetItem → Bool
  | .code number => lastCaselessCode < number || isCasedCode modes number
  | .range first last =>
    lastCaselessCode < last ||
      (if modes.ascii then Letter.hasAsciiCaseWithin first last
       else Letter.hasCaseWithin first last)
  | .category _ _ => false

/-- A character is meant by a member of a set. -/
def SetItem.holds (modes : Modes) (c : Char) : SetItem → Bool
  | .code number => c.toNat == number
  | .range first last => Letter.isWithin first last c.toNat
  | .category kind negated => kind.holds modes c != negated

/-- A small form belongs to a letter between two code points. -/
def isSmallFormBetween (modes : Modes) (first last : Nat) (small : Char) : Bool :=
  if modes.ascii then Letter.isAsciiSmallFormWithin first last small
  else Letter.isSmallFormWithin first last small

/-- A small form is meant by a member of a set when case makes no difference. -/
def SetItem.holdsCaseless (modes : Modes) (small : Char) : SetItem → Bool
  | .code number =>
    if lastCaselessCode < number then small.toNat == number
    else (smallFormsOf modes number).contains small
  | .range first last =>
    ((companions modes small).any (isSmallFormBetween modes first (min last lastCaselessCode)))
      || (lastCaselessCode < last && (Letter.isWithin first last small.toNat
        || Letter.isWithin first last (Letter.firstCapital small).toNat))
  | .category kind negated => kind.holds modes small != negated

/-- The set depends on letter case and the flags say that it makes no difference. -/
def isSetCaseless (modes : Modes) (items : List SetItem) : Bool :=
  modes.ignoreCase && items.any (·.isCaseless modes)

/-- A character is in a set, or outside a negated one. All but one character are a set of their
own kind, which reads letter case as a literal does. -/
def setHolds (modes : Modes) (negated : Bool) (items : List SetItem) (c : Char) : Bool :=
  match negated, items with
  | true, [.code code] => !literalHolds modes code c
  | _, _ =>
    (if isSetCaseless modes items then
      items.any (·.holdsCaseless modes (smallForm modes c))
    else items.any (·.holds modes c)) != negated

/-- A character is what a dot stands for. -/
def dotHolds (modes : Modes) (c : Char) : Bool := modes.dotAll || c != '\n'

/-- What a part that takes one character says about it. -/
structure Single where
  /-- The character is allowed. -/
  holds : Char → Bool
  /-- Several small forms have to be compared for each character. -/
  isMultiform : Bool

/-- A literal takes one character. -/
def singleLiteral (modes : Modes) (code : Nat) : Single where
  holds := literalHolds modes code
  isMultiform := isLiteralCaseless modes code && 1 < (smallFormsOf modes code).length

/-- A set takes one character. -/
def singleSet (modes : Modes) (negated : Bool) (items : List SetItem) : Single where
  holds := setHolds modes negated items
  isMultiform :=
    match negated, items with
    | true, [.code code] => (singleLiteral modes code).isMultiform
    | _, _ => isSetCaseless modes items

/-- What a part says about the one character that it takes, if it always takes just one. -/
def Node.single? (modes : Modes) : Node → Option Single
  | .literal code => some (singleLiteral modes code)
  | .any => some ⟨dotHolds modes, false⟩
  | .set negated items => some (singleSet modes negated items)
  | .scoped on off body => body.single? (modes.change on off)
  | _ => none

/-- What a part begins with. -/
inductive Lead where
  /-- Nothing of its own, so what follows decides. -/
  | nothing
  /-- One code point as it is. -/
  | literal (code : Nat)
  /-- A character of a set, compared as it is. -/
  | set (holds : Char → Bool)
  /-- Something else. -/
  | other

/-- What a part begins with. -/
def Node.lead (modes : Modes) : Node → Lead
  | .empty => .nothing
  | .literal code => if isLiteralCaseless modes code then .other else .literal code
  | .set negated items =>
    match negated, items with
    | true, [.code _] => .other
    | _, _ => if isSetCaseless modes items then .other else .set (setHolds modes negated items)
  | .seq first second =>
    match first.lead modes with
    | .nothing => second.lead modes
    | lead => lead
  | .scoped on off body => body.lead (modes.change on off)
  | _ => .other

/-- The character at a place, or the end of the text, may be what a part begins with. -/
def Lead.allows (lead : Lead) (c : Option Char) : Bool :=
  match lead with
  | .nothing => true
  | .literal code => c.any (·.toNat == code)
  | .set holds => c.any holds
  | .other => true

/-- The code point that a part begins with, given that of what follows. -/
def Lead.code? (lead : Lead) (following : Option Nat) : Option Nat :=
  match lead with
  | .nothing => following
  | .literal code => some code
  | .set _ => none
  | .other => none

end HeaderEnum.Pattern
