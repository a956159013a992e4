import HeaderEnum.Naming.Entry
import HeaderEnum.Text.Split

/-!
# Enum declarations

A Swift enum as the raw-value expansion sees it: cases with the markers attached to them. The
expansion replaces the marker of each case by a mapping between the case and a C constant.
-/

namespace HeaderEnum.Swift

/-- One argument of a marker. -/
structure Argument where
  /-- The argument itself. -/
  expression : String
  /-- The label before it. -/
  label : Option String := none
  deriving DecidableEq, Repr

/-- An argument as it is written; an empty label is left out. -/
def Argument.render (argument : Argument) : String :=
  match argument.label with
  | none => argument.expression
  | some label =>
    if label = "" then argument.expression else label ++ ": " ++ argument.expression

/-- An attribute of a case. -/
structure Marker where
  /-- The name after the at sign. -/
  name : String
  /-- The arguments in order. -/
  arguments : List Argument := []
  deriving DecidableEq, Repr

/-- A marker as it is written. -/
def Marker.render (marker : Marker) : String :=
  "@" ++ marker.name ++ "(" ++ Text.joinWith ", " (marker.arguments.map Argument.render) ++ ")"

/-- The marker of an enum whose raw values are expanded. -/
def rawValuesMarker : String := "CEnumRawValues"

/-- The marker that names the constant of a case. -/
def valueMarker : String := "CEnumValue"

/-- One name of a case declaration. -/
structure CaseElement where
  /-- The case name. -/
  name : String
  /-- The case carries associated values. -/
  hasAssociatedValues : Bool := false
  /-- The raw value given to the case. -/
  rawValue : Option String := none
  deriving DecidableEq, Repr

/-- A case declaration with its markers. -/
structure CaseDeclaration where
  /-- The names declared together. -/
  elements : List CaseElement
  /-- The markers before the declaration. -/
  markers : List Marker := []
  deriving DecidableEq, Repr

/-- An enum declaration. -/
structure EnumDeclaration where
  /-- The name of the enum. -/
  name : String
  /-- The access level written before it. -/
  access : Option String := none
  /-- Raw type and conformances. -/
  inheritedTypes : List String := []
  /-- Case declarations in order. -/
  cases : List CaseDeclaration := []
  deriving DecidableEq, Repr

namespace CaseDeclaration

/-- The markers that name a constant. -/
def valueMarkers (declaration : CaseDeclaration) : List Marker :=
  declaration.markers.filter (·.name == valueMarker)

/-- The constant of a case: the one unlabelled argument of its one value marker. -/
def valueExpression (declaration : CaseDeclaration) : Option String :=
  match declaration.valueMarkers with
  | [⟨_, [⟨expression, none⟩]⟩] => some expression
  | _ => none

/-- The first name of a case declaration. -/
def firstName (declaration : CaseDeclaration) : String :=
  match declaration.elements with
  | [] => ""
  | element :: _ => element.name

/-- Case name and constant of a declaration that has one of each. -/
def arm? (declaration : CaseDeclaration) : Option (String × String) :=
  match declaration.elements, declaration.valueExpression with
  | [element], some constant => some (element.name, constant)
  | _, _ => none

/-- The case declaration of an entry. -/
def ofEntry (entry : Naming.Entry) : CaseDeclaration where
  elements := [{ name := entry.identifier }]
  markers := [{ name := valueMarker, arguments := [{ expression := entry.constant }] }]

end CaseDeclaration

/-- The enum with one case for each entry, in order. -/
def EnumDeclaration.ofEntries (name : String) (entries : List Naming.Entry)
    (access : Option String) : EnumDeclaration where
  name := name
  access := access
  cases := entries.map CaseDeclaration.ofEntry

end HeaderEnum.Swift
