import HeaderEnum.Letter.AlphanumericTable
import HeaderEnum.Letter.DigitTable
import HeaderEnum.Letter.IdentifierTable
import HeaderEnum.Letter.UnprintableTable
import HeaderEnum.Letter.UppercaseTable

/-!
# Character classes

Word characters, letters, digits, identifiers, capitals, blanks and printable characters over all of
Unicode. ASCII characters are decided without a table, so statements about ASCII text never look
into one.
-/

namespace HeaderEnum.Letter

/-- A code point lies in one of the inclusive ranges. -/
def inRanges (ranges : List (Nat × Nat)) (code : Nat) : Bool :=
  ranges.any fun range => range.1 ≤ code && code ≤ range.2

/-- The first 128 code points. -/
def isAscii (c : Char) : Bool := c.toNat < 128

/-- Letters and characters with a numeric value. -/
def isAlphanumeric (c : Char) : Bool :=
  if isAscii c then c.isAlphanum else inRanges alphanumericRanges c.toNat

/-- Word characters: letters, numerals and the underscore. -/
def isWord (c : Char) : Bool := c == '_' || isAlphanumeric c

/-- Word characters of an ASCII identifier. -/
def isAsciiWord (c : Char) : Bool := c == '_' || c.isAlphanum

/-- Decimal digits of any script. -/
def isDecimal (c : Char) : Bool :=
  if isAscii c then c.isDigit else inRanges decimalRanges c.toNat

/-- The value of a decimal digit; the digits of a script stand in order, from zero on. -/
def decimalValue (c : Char) : Nat :=
  if isAscii c then c.toNat - '0'.toNat
  else match decimalRanges.find? fun range => range.1 ≤ c.toNat && c.toNat ≤ range.2 with
    | some range => (c.toNat - range.1) % 10
    | none => 0

/-- Letters, which have no numeric value unless they are ideographs. -/
def isLetter (c : Char) : Bool :=
  if isAscii c then c.isAlpha else isAlphanumeric c && !inRanges numeralRanges c.toNat

/-- Characters that may begin an identifier of a Unicode text. -/
def opensIdentifier (c : Char) : Bool :=
  if isAscii c then c == '_' || c.isAlpha
  else inRanges openingSignRanges c.toNat ||
    (isLetter c && !inRanges unfitLetterRanges c.toNat && !inRanges innerLetterRanges c.toNat)

/-- Characters that may stand in an identifier of a Unicode text. -/
def continuesIdentifier (c : Char) : Bool :=
  if isAscii c then isAsciiWord c
  else opensIdentifier c || isDecimal c || inRanges innerLetterRanges c.toNat
    || inRanges joiningRanges c.toNat

/-- A text is an identifier by the rules of Unicode. -/
def isIdentifier : List Char → Bool
  | [] => false
  | c :: rest => opensIdentifier c && rest.all continuesIdentifier

/-- Characters that stand for one digit: decimal digits, superscripts, circled digits and more. -/
def isDigit (c : Char) : Bool :=
  if isAscii c then c.isDigit else inRanges digitRanges c.toNat

/-- Capital letters, counting circled capitals and Roman numerals but no title-case letters. -/
def isUpper (c : Char) : Bool :=
  if isAscii c then c.isUpper
  else uppercaseRows.any fun (first, last, step) =>
    first ≤ c.toNat && c.toNat ≤ last && (c.toNat - first) % step == 0

/-- Blanks: the white space and the information separators. -/
def isSpace (c : Char) : Bool :=
  inRanges [(0x09, 0x0D), (0x1C, 0x20), (0x85, 0x85), (0xA0, 0xA0), (0x1680, 0x1680),
    (0x2000, 0x200A), (0x2028, 0x2029), (0x202F, 0x202F), (0x205F, 0x205F), (0x3000, 0x3000)]
    c.toNat

/-- Characters that a quoted text shows as they are. -/
def isPrintable (c : Char) : Bool :=
  if isAscii c then 0x20 ≤ c.toNat && c.toNat < 0x7F
  else !inRanges unprintableRanges c.toNat

end HeaderEnum.Letter
