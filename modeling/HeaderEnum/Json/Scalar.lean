import HeaderEnum.Crash
import HeaderEnum.Json.Value

/-!
# Reading texts and numbers of JSON

The scalar parts of a JSON text. A reader gets the characters from its place on and gives back those
that it leaves; a fault keeps the characters from the place where it was noticed on. An escape may
name half of a pair alone, which becomes a lone surrogate. A whole number with too many digits is
not read.
-/

namespace HeaderEnum.Json

/-- Why a text is no JSON text. -/
inductive Problem where
  /-- A value should begin here. -/
  | expectedValue
  /-- A member's name should begin here. -/
  | expectedName
  /-- A colon should follow the name. -/
  | expectedColon
  /-- A comma or the closing bracket should follow the value. -/
  | expectedComma
  /-- Something follows the whole value. -/
  | extraData
  /-- A text without its closing quote. -/
  | unterminatedText
  /-- A control character inside a text. -/
  | controlCharacter
  /-- A backslash before a character that has no escape. -/
  | badEscape
  /-- An escape without its four digits. -/
  | badUnicodeEscape
  /-- A byte order mark at the start. -/
  | byteOrderMark
  deriving DecidableEq, Repr

/-- The wording of a problem. -/
def Problem.message : Problem → String
  | .expectedValue => "Expecting value"
  | .expectedName => "Expecting property name enclosed in double quotes"
  | .expectedColon => "Expecting ':' delimiter"
  | .expectedComma => "Expecting ',' delimiter"
  | .extraData => "Extra data"
  | .unterminatedText => "Unterminated string starting at"
  | .controlCharacter => "Invalid control character at"
  | .badEscape => "Invalid \\escape"
  | .badUnicodeEscape => "Invalid \\uXXXX escape"
  | .byteOrderMark => "Unexpected UTF-8 BOM (decode using utf-8-sig)"

/-- A problem and the characters from its place on. -/
structure Stop where
  /-- What is wrong. -/
  problem : Problem
  /-- The characters from the place of the problem on. -/
  rest : List Char
  deriving DecidableEq, Repr

/-- A value read, and the characters left. -/
abbrev Read (α : Type) := Except (Halt Stop) (α × List Char)

/-- Reading stops at a problem. -/
def stopped {α : Type} (problem : Problem) (rest : List Char) : Read α :=
  .error (.fault ⟨problem, rest⟩)

/-- Blanks between the parts of a JSON text. -/
def isBlank (c : Char) : Bool := c == ' ' || c == '\t' || c == '\n' || c == '\r'

/-- The characters after blanks. -/
def skipBlanks (text : List Char) : List Char := text.dropWhile isBlank

/-- The value of a hexadecimal digit. -/
def hexValue? (c : Char) : Option Nat :=
  if c.isDigit then some (c.toNat - '0'.toNat)
  else if 'a' ≤ c && c ≤ 'f' then some (c.toNat - 'a'.toNat + 10)
  else if 'A' ≤ c && c ≤ 'F' then some (c.toNat - 'A'.toNat + 10)
  else none

/-- The number of four hexadecimal digits. -/
def hexNumber? (a b c d : Char) : Option Nat :=
  match hexValue? a, hexValue? b, hexValue? c, hexValue? d with
  | some a, some b, some c, some d => some (a * 0x1000 + b * 0x100 + c * 0x10 + d)
  | _, _, _, _ => none

/-- The character of a one-letter escape. -/
def escaped? : Char → Option Char
  | '"' => some '"'
  | '\\' => some '\\'
  | '/' => some '/'
  | 'b' => some '\x08'
  | 'f' => some '\x0c'
  | 'n' => some '\n'
  | 'r' => some '\r'
  | 't' => some '\t'
  | _ => none

/-- The code units of a text after its opening quote, and the characters after the closing one. The
first argument is the text from its opening quote on. An escape by number needs a character after
its digits, since the text cannot end there. -/
def textUnits (opening : List Char) : List Char → Read (List Nat)
  | [] => stopped .unterminatedText opening
  | '"' :: rest => .ok ([], rest)
  | '\\' :: 'u' :: a :: b :: c :: d :: next :: rest =>
    match hexNumber? a b c d with
    | none => stopped .badUnicodeEscape ('\\' :: 'u' :: a :: b :: c :: d :: next :: rest)
    | some unit =>
      (textUnits opening (next :: rest)).map fun (units, rest) => (unit :: units, rest)
  | '\\' :: 'u' :: rest => stopped .badUnicodeEscape ('\\' :: 'u' :: rest)
  | ['\\'] => stopped .unterminatedText opening
  | '\\' :: c :: rest =>
    match escaped? c with
    | none => stopped .badEscape ('\\' :: c :: rest)
    | some meant =>
      (textUnits opening rest).map fun (units, rest) => (meant.toNat :: units, rest)
  | c :: rest =>
    if c.toNat < 0x20 then stopped .controlCharacter (c :: rest)
    else (textUnits opening rest).map fun (units, rest) => (c.toNat :: units, rest)

/-- The first half of a pair of code units. -/
def isHighHalf (unit : Nat) : Bool := 0xD800 ≤ unit && unit < 0xDC00

/-- The second half of a pair of code units. -/
def isLowHalf (unit : Nat) : Bool := 0xDC00 ≤ unit && unit < 0xE000

/-- The character of a code unit by itself; a half alone is a lone surrogate. -/
def charOfUnit [Platform] (unit : Nat) : Char :=
  if isHighHalf unit || isLowHalf unit then Platform.standIn unit else Char.ofNat unit

/-- The characters of code units, where two halves make one. -/
def charsOfUnits [Platform] : List Nat → List Char
  | [] => []
  | [unit] => [charOfUnit unit]
  | high :: low :: rest =>
    if isHighHalf high && isLowHalf low then
      Char.ofNat (0x10000 + (high - 0xD800) * 0x400 + (low - 0xDC00)) :: charsOfUnits rest
    else charOfUnit high :: charsOfUnits (low :: rest)

/-- A text whose opening quote comes first. -/
def readText [Platform] (text : List Char) : Read String :=
  (textUnits text (text.drop 1)).map fun (units, rest) =>
    (String.ofList (charsOfUnits units), rest)

/-- The number that decimal digits denote. -/
def digitsValue (digits : List Char) : Nat :=
  digits.foldl (fun value c => value * 10 + (c.toNat - '0'.toNat)) 0

/-- The digits before the point: a zero alone, or digits that do not begin with one. -/
def wholeDigits? : List Char → Option (List Char × List Char)
  | '0' :: rest => some (['0'], rest)
  | c :: rest =>
    if c.isDigit then
      some (c :: rest.takeWhile Char.isDigit, rest.dropWhile Char.isDigit)
    else none
  | [] => none

/-- A point with the digits after it, if there are any. -/
def fraction? : List Char → Option (List Char × List Char)
  | '.' :: rest =>
    let digits := rest.takeWhile Char.isDigit
    if digits.isEmpty then none else some (digits, rest.dropWhile Char.isDigit)
  | _ => none

/-- The exponent after its letter and sign. -/
def exponentDigits? (negative : Bool) (text : List Char) : Option (Int × List Char) :=
  let digits := text.takeWhile Char.isDigit
  if digits.isEmpty then none
  else
    let value : Int := digitsValue digits
    some (if negative then -value else value, text.dropWhile Char.isDigit)

/-- An exponent: a letter, a sign that may be left out, and digits. -/
def exponent? : List Char → Option (Int × List Char)
  | c :: rest =>
    if c = 'e' || c = 'E' then
      match rest with
      | '+' :: rest => exponentDigits? false rest
      | '-' :: rest => exponentDigits? true rest
      | _ => exponentDigits? false rest
    else none
  | [] => none

/-- A whole number of some digits. -/
def integer (negative : Bool) (digits : List Char) : Except (Halt Stop) Value :=
  if digitLimit < digits.length then .error (.crash (.longNumber digits.length))
  else
    let value : Int := digitsValue digits
    .ok (.integer (if negative then -value else value))

/-- A number without its sign. A fraction or an exponent makes it a decimal. -/
def unsigned? (negative : Bool) (text : List Char) : Option (Read Value) := do
  let (whole, rest) ← wholeDigits? text
  let (fraction, afterFraction) := (fraction? rest).getD ([], rest)
  let (exponent, afterAll) := (exponent? afterFraction).getD (0, afterFraction)
  if (fraction? rest).isNone && (exponent? afterFraction).isNone then
    return (integer negative whole).map fun value => (value, rest)
  else
    return .ok (.decimal ⟨negative, digitsValue (whole ++ fraction), exponent - fraction.length⟩,
      afterAll)

/-- A number. -/
def number? : List Char → Option (Read Value)
  | '-' :: rest => unsigned? true rest
  | text => unsigned? false text

end HeaderEnum.Json
