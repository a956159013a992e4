import HeaderEnum.Letter.Class
import HeaderEnum.Platform

/-!
# Quoted text

How a message shows a text between quotes: single quotes unless the text holds one and no double
quote, backslashes before the quote and before a backslash, and a number for each character that
has no printed form, a lone surrogate among them.
-/

namespace HeaderEnum.Text

/-- Hexadecimal digits of a number, at least so many. -/
def hexDigits (width number : Nat) : List Char :=
  let digits := Nat.toDigits 16 number
  List.replicate (width - digits.length) '0' ++ digits

/-- The quote that a text is put between. -/
def quoteFor (text : List Char) : Char :=
  if text.contains '\x27' && !text.contains '"' then '"' else '\x27'

/-- The number of a surrogate as it stands in a message. -/
def surrogateNumber (code : Nat) : List Char := ['\\', 'u'] ++ hexDigits 4 code

/-- One character inside quotes. -/
def quotedChar [Platform] (quote c : Char) : List Char :=
  match Platform.surrogate? c with
  | some code => surrogateNumber code
  | none =>
    if c = quote || c = '\\' then ['\\', c]
    else if c = '\n' then ['\\', 'n']
    else if c = '\r' then ['\\', 'r']
    else if c = '\t' then ['\\', 't']
    else if Letter.isPrintable c then [c]
    else if c.toNat < 0x100 then ['\\', 'x'] ++ hexDigits 2 c.toNat
    else if c.toNat < 0x10000 then ['\\', 'u'] ++ hexDigits 4 c.toNat
    else ['\\', 'U'] ++ hexDigits 8 c.toNat

/-- A text between quotes. -/
def quoted [Platform] (text : String) : String :=
  let quote := quoteFor text.toList
  String.ofList (quote :: text.toList.flatMap (quotedChar quote) ++ [quote])

end HeaderEnum.Text
