import HeaderEnum.Swift.Diagnostic

/-!
# Expansion of raw values

The extension that maps each case to its constant and back. An enum without cases has none.
-/

namespace HeaderEnum.Swift

/-- Lines moved to the right by so many steps. -/
def indented (steps : Nat) (line : String) : String :=
  String.ofList (List.replicate (2 * steps) ' ') ++ line

/-- The access level that members repeat, with a space after it: only levels that reach beyond the
module have to be repeated. -/
def memberAccess (access : Option String) : String :=
  match access with
  | some level => if level = "public" || level = "package" then level ++ " " else ""
  | none => ""

/-- The lines of the switch from a constant to its case. -/
def armsFromConstant (arms : List (String × String)) : List String :=
  arms.flatMap fun (name, constant) =>
    [indented 3 ("case " ++ constant ++ ":"), indented 3 ("self = ." ++ name)]

/-- The lines of the switch from a case to its constant. -/
def armsFromCase (arms : List (String × String)) : List String :=
  arms.flatMap fun (name, constant) =>
    [indented 3 ("case ." ++ name ++ ":"), indented 3 ("return " ++ constant)]

/-- The extension for an enum with the given pairs of case name and constant. -/
def extensionLines (enumName : String) (access : Option String) (arms : List (String × String)) :
    List String :=
  let member := memberAccess access
  ["extension " ++ enumName ++ ": RawRepresentable \x7b",
    indented 1 (member ++ "typealias RawValue = String"),
    indented 1 (member ++ "init?(rawValue: String) \x7b"),
    indented 2 "switch rawValue \x7b"]
  ++ armsFromConstant arms
  ++ [indented 3 "default:", indented 3 "return nil", indented 2 "\x7d", indented 1 "\x7d", "",
    indented 1 (member ++ "var rawValue: String \x7b"), indented 2 "switch self \x7b"]
  ++ armsFromCase arms
  ++ [indented 2 "\x7d", indented 1 "\x7d", "\x7d"]

/-- The extension of an accepted declaration, with no line feed at its end. -/
def EnumDeclaration.expand (declaration : EnumDeclaration) : Except Diagnostic String := do
  declaration.validate
  let arms := declaration.cases.filterMap CaseDeclaration.arm?
  return if arms.isEmpty then ""
    else Text.joinLines (extensionLines declaration.name declaration.access arms)

end HeaderEnum.Swift
