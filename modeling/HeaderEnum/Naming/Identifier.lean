import HeaderEnum.Letter.Class

/-!
# Identifiers

Making an identifier of any text: what cannot stand in one becomes an underscore, needless leading
underscores go, and a leading digit gets one in front.
-/

namespace HeaderEnum.Naming

/-- One underscore for each maximal run of characters that no identifier holds; the flag says that
such a run is going on. -/
def replaceRuns : Bool → List Char → List Char
  | _, [] => []
  | running, c :: rest =>
    if Letter.isWord c then c :: replaceRuns false rest
    else if running then replaceRuns true rest
    else '_' :: replaceRuns true rest

/-- Drop leading underscores as long as more than one character remains. -/
def trimUnderscores : List Char → List Char
  | '_' :: c :: rest => trimUnderscores (c :: rest)
  | text => text

/-- Put an underscore before a leading digit, and let one stand for an empty text. -/
def guardFirst : List Char → List Char
  | [] => ['_']
  | c :: rest => if Letter.isDigit c then '_' :: c :: rest else c :: rest

/-- The identifier made of a text. -/
def identifierOf (text : List Char) : List Char :=
  guardFirst (trimUnderscores (replaceRuns false text))

/-- The identifier made of a text. -/
def sanitize (text : String) : String := String.ofList (identifierOf text.toList)

end HeaderEnum.Naming
