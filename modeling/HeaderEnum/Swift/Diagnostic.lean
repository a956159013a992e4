import HeaderEnum.Swift.Declaration

/-!
# What the expansion rejects

The conditions under which the raw-value expansion refuses a declaration. An enum with a raw type is
refused as a whole; otherwise each case is checked on its own, and its first problem counts.
-/

namespace HeaderEnum.Swift

/-- A reason to reject a declaration. -/
inductive Diagnostic where
  /-- The enum has a raw type or conformances. -/
  | rawType
  /-- A case declaration has no name or several. -/
  | multipleElements
  /-- A case carries associated values. -/
  | associatedValues
  /-- A case declares a raw value. -/
  | rawValue
  /-- A case has several value markers. -/
  | duplicateValue
  /-- A case has no value marker. -/
  | missingValue (name : String)
  /-- A value marker has other than one plain argument. -/
  | invalidArguments
  deriving DecidableEq, Repr

/-- The identifier of a diagnostic. -/
def Diagnostic.id : Diagnostic → String
  | .rawType => "CEnumMacros.rawTypeNotSupported"
  | .multipleElements => "CEnumMacros.multipleCaseElements"
  | .associatedValues => "CEnumMacros.associatedValuesNotSupported"
  | .rawValue => "CEnumMacros.rawValueNotSupported"
  | .duplicateValue => "CEnumMacros.duplicateCEnumValue"
  | .missingValue _ => "CEnumMacros.missingCEnumValue"
  | .invalidArguments => "CEnumMacros.invalidCEnumValueArguments"

/-- The wording of a diagnostic. -/
def Diagnostic.message : Diagnostic → String
  | .rawType =>
    "@" ++ rawValuesMarker ++ " enums must not declare a raw type or other conformances."
  | .multipleElements => "@" ++ rawValuesMarker ++ " requires one case per declaration."
  | .associatedValues => "@" ++ rawValuesMarker ++ " does not support associated values."
  | .rawValue => "@" ++ rawValuesMarker ++ " cases must not declare raw values."
  | .duplicateValue => "Duplicate @" ++ valueMarker ++ " attribute found."
  | .missingValue name => "Missing @" ++ valueMarker ++ " for case '" ++ name ++ "'."
  | .invalidArguments => "@" ++ valueMarker ++ " requires a single unlabeled argument."

/-- The problem of a value marker's arguments. -/
def Marker.problem? (marker : Marker) : Option Diagnostic :=
  match marker.arguments with
  | [⟨expression, none⟩] => if expression = "" then some .invalidArguments else none
  | _ => some .invalidArguments

/-- The first problem of a case declaration. -/
def CaseDeclaration.problem? (declaration : CaseDeclaration) : Option Diagnostic :=
  match declaration.elements with
  | [element] =>
    if element.hasAssociatedValues then some .associatedValues
    else if element.rawValue.isSome then some .rawValue
    else match declaration.valueMarkers with
      | [] => some (.missingValue element.name)
      | [marker] => marker.problem?
      | _ => some .duplicateValue
  | _ => some .multipleElements

/-- Every reason to reject a declaration, in its order. -/
def EnumDeclaration.problems (declaration : EnumDeclaration) : List Diagnostic :=
  if declaration.inheritedTypes.isEmpty then
    declaration.cases.filterMap CaseDeclaration.problem?
  else [.rawType]

/-- Accept a declaration or give the first reason to reject it. -/
def EnumDeclaration.validate (declaration : EnumDeclaration) : Except Diagnostic Unit :=
  match declaration.problems with
  | [] => .ok ()
  | first :: _ => .error first

end HeaderEnum.Swift
