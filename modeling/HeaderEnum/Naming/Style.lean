import HeaderEnum.Letter.Case
import HeaderEnum.Text.Split

/-!
# Case styles

How a name is spelled as a case name: kept as it is, or in lower or upper camel case. A name with
separators is put together from its tokens; a name without is taken for camel case already, and
only its leading word changes.
-/

namespace HeaderEnum.Naming

/-- Spelling of a case name. -/
inductive CaseStyle where
  /-- The name as it is. -/
  | keep
  /-- A small first word, then capitalized words. -/
  | lowerCamel
  /-- Capitalized words. -/
  | upperCamel
  deriving DecidableEq, Repr

/-- The word that names a style in settings. -/
def CaseStyle.label : CaseStyle → String
  | .keep => "keep"
  | .lowerCamel => "lowerCamel"
  | .upperCamel => "upperCamel"

/-- The style that a word names. -/
def CaseStyle.ofLabel? (label : String) : Option CaseStyle :=
  [CaseStyle.keep, .lowerCamel, .upperCamel].find? (·.label == label)

/-- Characters between tokens: all but letters and numerals, so the underscore is one. -/
def isSeparator (c : Char) : Bool := !Letter.isAlphanumeric c

/-- The non-empty runs of letters and numerals, in order. -/
def tokens (name : List Char) : List (List Char) :=
  (Text.pieces isSeparator name).filter (· ≠ [])

/-- Capitalized tokens, one after another. -/
def upperCamelOfTokens (words : List (List Char)) : List Char := words.flatMap Letter.capitalized

/-- A small first token, then capitalized ones. -/
def lowerCamelOfTokens : List (List Char) → List Char
  | [] => []
  | first :: others => Letter.lower first ++ upperCamelOfTokens others

/-- Put the leading word of a camel-cased name into small letters. One leading capital is the first
letter of a word; of several, the last one begins the next word, unless nothing follows. -/
def lowerCamelOfCamel (name : List Char) : List Char :=
  let capitals := name.takeWhile Letter.isUpper
  let rest := name.dropWhile Letter.isUpper
  match capitals, rest with
  | [], _ => name
  | _, [] => Letter.lower name
  | [capital], _ => Letter.lower [capital] ++ rest
  | _, _ => Letter.lower capitals.dropLast ++ capitals.drop (capitals.length - 1) ++ rest

/-- Capitalize the first character alone. -/
def upperFirst : List Char → List Char
  | [] => []
  | c :: rest => Letter.upperChar c ++ rest

/-- Spell a name in a style. The result need not be an identifier. -/
def CaseStyle.spell : CaseStyle → List Char → List Char
  | .keep, name => name
  | .upperCamel, name =>
    if name.any isSeparator then upperCamelOfTokens (tokens name) else upperFirst name
  | .lowerCamel, name =>
    if name.any isSeparator then lowerCamelOfTokens (tokens name) else lowerCamelOfCamel name

/-- Spell a name in a style. -/
def CaseStyle.apply (style : CaseStyle) (name : String) : String :=
  String.ofList (style.spell name.toList)

end HeaderEnum.Naming
