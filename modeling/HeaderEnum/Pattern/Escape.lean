import HeaderEnum.Pattern.Token

/-!
# Escapes of a pattern

What a backslash with the character after it stands for, outside and inside a character set: a
class, a place, a reference to a group, or one character given by its number or its name.
-/

namespace HeaderEnum.Pattern

/-- The value of a hexadecimal digit. -/
def digitValue (c : Char) : Nat :=
  if c.isDigit then c.toNat - '0'.toNat
  else if 'a' ≤ c && c ≤ 'f' then c.toNat - 'a'.toNat + 10
  else if 'A' ≤ c && c ≤ 'F' then c.toNat - 'A'.toNat + 10
  else 0

/-- Hexadecimal digits. -/
def isHexDigit (c : Char) : Bool :=
  c.isDigit || ('a' ≤ c && c ≤ 'f') || ('A' ≤ c && c ≤ 'F')

/-- Octal digits. -/
def isOctalDigit (c : Char) : Bool := '0' ≤ c && c ≤ '7'

/-- The number that digits denote. -/
def valueOf (base : Nat) (digits : List Char) : Nat :=
  digits.foldl (fun value c => value * base + digitValue c) 0

/-- An escape as it stands in the pattern. -/
def escapeText (rest : List Char) : String := String.ofList ('\\' :: rest)

/-- The control character of an escape letter. -/
def controlCode? : Char → Option Nat
  | 'a' => some 7
  | 'b' => some 8
  | 'f' => some 12
  | 'n' => some 10
  | 'r' => some 13
  | 't' => some 9
  | 'v' => some 11
  | '\\' => some 92
  | _ => none

/-- The class of an escape letter. -/
def category? : Char → Option SetItem
  | 'd' => some (.category .digit false)
  | 'D' => some (.category .digit true)
  | 's' => some (.category .space false)
  | 'S' => some (.category .space true)
  | 'w' => some (.category .word false)
  | 'W' => some (.category .word true)
  | _ => none

/-- The place of an escape letter. -/
def anchor? : Char → Option Anchor
  | 'A' => some .textStart
  | 'b' => some .boundary
  | 'B' => some .noBoundary
  | 'Z' => some .textEnd
  | _ => none

/-- How many hexadecimal digits an escape letter takes. -/
def hexLength? : Char → Option Nat
  | 'x' => some 2
  | 'u' => some 4
  | 'U' => some 8
  | _ => none

/-- The code point of an escape letter with its hexadecimal digits. -/
def hexCode (letter : Char) (length : Nat) : Reader Nat := do
  let digits ← takeUpTo isHexDigit length
  let text := escapeText (letter :: digits)
  if digits.length < length then failBack (.incompleteEscape text) (digits.length + 2)
  else
    let code := valueOf 16 digits
    if code < 0x110000 then return code else failBack (.badEscape text) (digits.length + 2)

/-- The code point of a character given by its name. -/
def namedCode [Platform] : Reader Nat := do
  unless ← accept '\x7b' do failBack .missingBrace 0
  let name := String.ofList (← takeName '\x7d' .missingCharacterName)
  match Platform.characterNamed? name with
  | some c => return c.toNat
  | none => failBack (.unknownCharacterName name) (name.length + 4)

/-- A character that stands for itself after a backslash: all but ASCII letters and digits. -/
def plainCode (c : Char) : Reader Nat :=
  if c.isAlphanum then failBack (.badEscape (escapeText [c])) 2 else return c.toNat

/-- An escape inside a character set. -/
def setEscape [Platform] (c : Char) : Reader SetItem := do
  match controlCode? c, category? c, hexLength? c with
  | some code, _, _ => return .code code
  | _, some item, _ => return item
  | _, _, some length => return .code (← hexCode c length)
  | _, _, _ =>
    if c = 'N' then return .code (← namedCode)
    else if isOctalDigit c then
      let digits := c :: (← takeUpTo isOctalDigit 2)
      let code := valueOf 8 digits
      if code > 0o377 then failBack (.octalTooLarge (escapeText digits)) (digits.length + 1)
      else return .code code
    else return .code (← plainCode c)

/-- The group with this number, counted from one. -/
def groupOf? (number : Nat) : Reader (Option OpenedGroup) := do
  let groups := (← get).groups
  return if number = 0 then none else groups[number - 1]?

/-- A reference to a group that exists, noticed after so many characters. -/
def referenceTo (number : Nat) (group : OpenedGroup) (length : Nat) : Reader Node := do
  if group.width.isNone then failBack .openReference length
  match (← get).lookBehind with
  | some first => if first ≤ number then failBack .lookBehindReference 0
  | none => pure ()
  return .reference number

/-- A reference to a group by a number of one or two digits. -/
def numberedReference (digits : List Char) : Reader Node := do
  let number := valueOf 10 digits
  match ← groupOf? number with
  | some group => referenceTo number group (digits.length + 1)
  | none => failBack (.invalidReference number) digits.length

/-- An escape that starts with a digit other than zero: three octal digits are a character, fewer
are a reference. -/
def digitEscape (c : Char) : Reader Node := do
  let second ← takeUpTo Char.isDigit 1
  if isOctalDigit c && second.all isOctalDigit && !second.isEmpty then
    let third ← takeUpTo isOctalDigit 1
    let digits := c :: (second ++ third)
    if third.isEmpty then numberedReference digits
    else if valueOf 8 digits > 0o377 then failBack (.octalTooLarge (escapeText digits)) 4
    else return .literal (valueOf 8 digits)
  else numberedReference (c :: second)

/-- An escape outside a character set. -/
def nodeEscape [Platform] (c : Char) : Reader Node := do
  match anchor? c, category? c, controlCode? c, hexLength? c with
  | some kind, _, _, _ => return .anchor kind
  | _, some item, _, _ => return .set false [item]
  | _, _, some code, _ => return .literal code
  | _, _, _, some length => return .literal (← hexCode c length)
  | _, _, _, _ =>
    if c = 'N' then return .literal (← namedCode)
    else if c = '0' then return .literal (valueOf 8 (← takeUpTo isOctalDigit 2))
    else if c.isDigit then digitEscape c
    else return .literal (← plainCode c)

end HeaderEnum.Pattern
