import HeaderEnum.Swift.Expansion

/-!
# The generated file

The text of the Swift file for a list of entries, in one of two forms: an enum with markers that the
support module expands, or a plain enum followed by the extension itself.
-/

namespace HeaderEnum.Swift

/-- What decides about a generated file apart from its entries. -/
structure Layout where
  /-- The name of the enum. -/
  enumName : String
  /-- The access level of the enum. -/
  access : Option String := none
  /-- Modules to import. -/
  imports : List String := []
  /-- The module that defines the markers. -/
  supportModule : String := "CEnumMacros"
  /-- Write the extension instead of the markers. -/
  expand : Bool := false
  deriving DecidableEq, Repr

/-- The first line of every generated file. -/
def headline : String := "// Generated by CEnumGen. Do not edit."

/-- The line that opens the enum. -/
def EnumDeclaration.openingLine (declaration : EnumDeclaration) : String :=
  let access := match declaration.access with
    | none => ""
    | some level => if level = "" then "" else level ++ " "
  access ++ "enum " ++ declaration.name ++ " \x7b"

/-- The line of a case under the enum's access level. -/
def CaseDeclaration.line (access : Option String) (declaration : CaseDeclaration) : String :=
  indented 1 (memberAccess access ++ "case " ++ declaration.firstName)

/-- A case with its markers above it. -/
def CaseDeclaration.annotatedLines (access : Option String) (declaration : CaseDeclaration) :
    List String :=
  declaration.markers.map (fun marker => indented 1 marker.render) ++ [declaration.line access]

/-- Blocks of lines with an empty line between neighbours. -/
def spaced : List (List String) → List String
  | [] => []
  | [last] => last
  | first :: rest => first ++ [""] ++ spaced rest

/-- The enum with markers. -/
def EnumDeclaration.annotatedLines (declaration : EnumDeclaration) : List String :=
  ["@" ++ rawValuesMarker, declaration.openingLine]
  ++ spaced (declaration.cases.map (·.annotatedLines declaration.access)) ++ ["\x7d"]

/-- The enum without markers. -/
def EnumDeclaration.plainLines (declaration : EnumDeclaration) : List String :=
  [declaration.openingLine] ++ declaration.cases.map (·.line declaration.access) ++ ["\x7d"]

/-- The extension below an enum, after an empty line, unless it is empty. -/
def belowEnum (extensionText : String) : List String :=
  if extensionText = "" then [] else ["", extensionText]

/-- The declaration of a file's enum. -/
def Layout.declaration (layout : Layout) (entries : List Naming.Entry) : EnumDeclaration :=
  .ofEntries layout.enumName entries layout.access

/-- The import lines of a file. -/
def Layout.importLines (layout : Layout) : List String :=
  let support := if layout.expand then [] else [layout.supportModule]
  (layout.imports ++ support).map ("import " ++ ·)

/-- The text of a file, which ends with a line feed. -/
def Layout.emit (layout : Layout) (entries : List Naming.Entry) : Except Diagnostic String := do
  let declaration := layout.declaration entries
  declaration.validate
  let body ←
    if layout.expand then
      pure (declaration.plainLines ++ belowEnum (← declaration.expand))
    else pure declaration.annotatedLines
  return Text.joinLines ([headline] ++ layout.importLines ++ [""] ++ body ++ [""])

/-- What is worth a warning about a list of entries. -/
def emissionWarnings (entries : List Naming.Entry) : List Warning :=
  if entries.isEmpty then [.noConstants] else []

end HeaderEnum.Swift
