import HeaderEnum.Naming.ReservedWords

/-!
# Swift's reserved words

The words that cannot stand for a case name as they are. A reserved word between grave accents is a
name. The single underscore counts as reserved, since it is a pattern and not a name.
-/

namespace HeaderEnum.Swift

/-- Words that Swift reserves. -/
def keywords : List String := [
  "associatedtype", "class", "deinit", "enum", "extension", "fileprivate", "func", "import",
  "init", "inout", "internal", "let", "open", "operator", "private", "protocol", "public",
  "static", "struct", "subscript", "typealias", "var",
  "break", "case", "continue", "default", "defer", "do", "else", "fallthrough", "for", "guard",
  "if", "in", "repeat", "return", "switch", "where", "while",
  "as", "any", "catch", "false", "is", "nil", "rethrows", "super", "self", "Self", "throw",
  "throws", "true", "try", "_"]

/-- Swift's rule: a reserved word is written between grave accents. -/
def reservedWords : Naming.ReservedWords := .between keywords "\x60" "\x60"

end HeaderEnum.Swift
