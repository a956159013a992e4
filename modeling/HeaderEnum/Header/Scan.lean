import HeaderEnum.Letter.Class
import HeaderEnum.Text.Split
import HeaderEnum.Warning

/-!
# Constants of a header

The names that a header defines. A definition may begin at the start of a line or after a
semicolon, and its name is an ASCII identifier that no further word character touches. Values,
comments, conditionals and continued lines are not looked at.
-/

namespace HeaderEnum.Header

/-- Space and tab, the only blanks inside a definition. -/
def isBlank (c : Char) : Bool := c == ' ' || c == '\t'

/-- The word that opens a definition. -/
def keyword : List Char := ['#', 'd', 'e', 'f', 'i', 'n', 'e']

/-- The text after a given beginning. -/
def dropExactly : List Char → List Char → Option (List Char)
  | [], text => some text
  | _ :: _, [] => none
  | c :: beginning, d :: text => if c = d then dropExactly beginning text else none

/-- An ASCII identifier at the front of a text, unless a further word character touches it. -/
def identifierAt? (text : List Char) : Option (List Char) :=
  let word := text.takeWhile Letter.isWord
  match word with
  | [] => none
  | c :: rest => if (c == '_' || c.isAlpha) && rest.all Letter.isAsciiWord then some word else none

/-- The name of the definition at the front of a text: blanks, the keyword, one blank or more, and
an identifier. -/
def definedAt? (text : List Char) : Option (List Char) :=
  match dropExactly keyword (text.dropWhile isBlank) with
  | some (blank :: rest) =>
    if isBlank blank then identifierAt? (rest.dropWhile isBlank) else none
  | _ => none

/-- A definition may begin after this character. -/
def opensDefinition (c : Char) : Bool := c == '\n' || c == ';'

/-- All defined names in order; the flag says that a definition may begin at the front. -/
def occurrencesFrom : Bool → List Char → List (List Char)
  | _, [] => []
  | opened, c :: rest =>
    let others := occurrencesFrom (opensDefinition c) rest
    if opened then
      match definedAt? (c :: rest) with
      | some name => name :: others
      | none => others
    else others

/-- Every defined name of a header, repetitions included, in order. -/
def occurrences (text : String) : List String :=
  (occurrencesFrom true (Text.unifyLineEnds text.toList)).map String.ofList

/-- The names of a header and what was repeated in it. -/
structure Scan where
  /-- Distinct names in the order of their first definitions. -/
  constants : List String
  /-- Names of all later definitions, in order. -/
  repeated : List String
  deriving DecidableEq, Repr

/-- Part names into first occurrences and repetitions, given the names met before. -/
def Scan.ofNames (seen : List String) : List String → Scan
  | [] => ⟨[], []⟩
  | name :: rest =>
    if name ∈ seen then
      let scan := Scan.ofNames seen rest
      { scan with repeated := name :: scan.repeated }
    else
      let scan := Scan.ofNames (name :: seen) rest
      { scan with constants := name :: scan.constants }

/-- The distinct constants of a header. -/
def scan (text : String) : Scan := Scan.ofNames [] (occurrences text)

/-- One warning for each repeated definition. -/
def Scan.warnings (scan : Scan) : List Warning := scan.repeated.map .repeated

end HeaderEnum.Header
