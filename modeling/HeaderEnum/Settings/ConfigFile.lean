import HeaderEnum.Json.Parser
import HeaderEnum.Text.Encoding

/-!
# Config files

The settings that a config file gives. Each key has a label and a second name, and each value a type
that it must have; `null` means that the key is absent. The first fault counts: keys are checked in
a fixed order, and unknown keys after all others in the order of the file. A key that holds a lone
surrogate hides every other fault.
-/

namespace HeaderEnum.Settings

/-- The settings of a config file, each of which may be absent. -/
structure ConfigFile where
  /-- The header to scan. -/
  input : Option String := none
  /-- The file to write. -/
  output : Option String := none
  /-- The name of the enum. -/
  enumName : Option String := none
  /-- The pattern that selects constants. -/
  pattern : Option String := none
  /-- Prefixes to drop. -/
  prefixes : Option (List String) := none
  /-- Suffixes to drop. -/
  suffixes : Option (List String) := none
  /-- The case style. -/
  caseStyle : Option String := none
  /-- The access level. -/
  access : Option String := none
  /-- Modules to import. -/
  imports : Option (List String) := none
  /-- Write the extension instead of the markers. -/
  expand : Option Bool := none
  deriving DecidableEq, Repr

/-- What is wrong with a member of a config file. -/
inductive Mismatch where
  /-- The value should be a text. -/
  | notText
  /-- The value should be a list. -/
  | notList
  /-- The value should be a truth value. -/
  | notBool
  /-- The value could stand for a truth value and does not. -/
  | unclearBool
  /-- There is no such key. -/
  | unknownKey
  /-- A text that is looked into holds a lone surrogate. -/
  | brokenText
  deriving DecidableEq, Repr

/-- The wording of a mismatch. -/
def Mismatch.message : Mismatch → String
  | .notText => "Input should be a valid string"
  | .notList => "Input should be a valid list"
  | .notBool => "Input should be a valid boolean"
  | .unclearBool => "Input should be a valid boolean, unable to interpret input"
  | .unknownKey => "Extra inputs are not permitted"
  | .brokenText => "Input should be a valid string, unable to parse raw data as a unicode string"

/-- A mismatch and the member it concerns. -/
structure MemberFault where
  /-- The member, with the number of a list item behind a point. -/
  location : String
  /-- What is wrong with it. -/
  mismatch : Mismatch
  deriving DecidableEq, Repr

/-- The wording of a fault. -/
def MemberFault.message (fault : MemberFault) : String :=
  fault.location ++ ": " ++ fault.mismatch.message

/-- A key of a config file with its two names, the first of which is preferred. -/
structure Key where
  /-- The preferred name. -/
  label : String
  /-- The other name; it may be the same. -/
  second : String
  deriving DecidableEq, Repr

/-- The value that an object gives for a key, with the name it uses. -/
def Key.find? (key : Key) (members : List (String × Json.Value)) :
    Option (String × Json.Value) :=
  match members.lookup key.label with
  | some value => some (key.label, value)
  | none => (members.lookup key.second).map fun value => (key.second, value)

/-- The texts that stand for a truth value, in small letters. -/
def boolWords : List (String × Bool) :=
  [("0", false), ("off", false), ("f", false), ("false", false), ("n", false), ("no", false),
    ("1", true), ("on", true), ("t", true), ("true", true), ("y", true), ("yes", true)]

/-- The truth value of a whole number of 64 bits: zero and one stand for one. -/
def boolOfInt (value : Int) : Except Mismatch Bool :=
  if value = 0 then .ok false
  else if value = 1 then .ok true
  else if -0x8000000000000000 ≤ value && value < 0x8000000000000000 then .error .unclearBool
  else .error .notBool

/-- The truth value of a number with a fraction or an exponent: zero and one stand for one. -/
def boolOfFloat (value : Float) : Except Mismatch Bool :=
  if value == 0.0 then .ok false
  else if value == 1.0 then .ok true
  else if value == value.floor && value.abs < 9223372036854775808.0 then .error .unclearBool
  else .error .notBool

/-- A value as a truth value. -/
def boolOf [Platform] : Json.Value → Except Mismatch Bool
  | .bool value => .ok value
  | .text value =>
    match boolWords.lookup (String.ofList (value.toList.map Char.toLower)) with
    | some meant => .ok meant
    | none => .error (if Text.IsEncodable value then .unclearBool else .brokenText)
  | .integer value => boolOfInt value
  | .decimal value => boolOfFloat value.toFloat
  | _ => .error .notBool

/-- A value as a text. -/
def textOf : Json.Value → Except Mismatch String
  | .text value => .ok value
  | _ => .error .notText

/-- The items of a list as texts; the location and the number are those of the first one. -/
def textsFrom (location : String) : Nat → List Json.Value → Except MemberFault (List String)
  | _, [] => .ok []
  | number, value :: rest =>
    match textOf value with
    | .error mismatch => .error ⟨location ++ "." ++ toString number, mismatch⟩
    | .ok text => (textsFrom location (number + 1) rest).map (text :: ·)

/-- A value as a list of texts. -/
def textsOf (location : String) : Json.Value → Except MemberFault (List String)
  | .array values => textsFrom location 0 values
  | _ => .error ⟨location, .notList⟩

/-- Read the value of a key, unless it is absent or null. -/
def Key.read {α : Type} (key : Key) (members : List (String × Json.Value))
    (reader : String → Json.Value → Except MemberFault α) : Except MemberFault (Option α) :=
  match key.find? members with
  | none => .ok none
  | some (_, .null) => .ok none
  | some (location, value) => (reader location value).map some

/-- A reader whose mismatch concerns the member as a whole. -/
def located {α : Type} (reader : Json.Value → Except Mismatch α) (location : String)
    (value : Json.Value) : Except MemberFault α :=
  match reader value with
  | .ok read => .ok read
  | .error mismatch => .error ⟨location, mismatch⟩

namespace Key

/-- The header to scan. -/
def input : Key := ⟨"input", "input"⟩

/-- The file to write. -/
def output : Key := ⟨"output", "output"⟩

/-- The name of the enum. -/
def enumName : Key := ⟨"enum", "enum_name"⟩

/-- The pattern that selects constants. -/
def pattern : Key := ⟨"match", "match"⟩

/-- Prefixes to drop. -/
def prefixes : Key := ⟨"dropPrefix", "drop_prefix"⟩

/-- Suffixes to drop. -/
def suffixes : Key := ⟨"dropSuffix", "drop_suffix"⟩

/-- The case style. -/
def caseStyle : Key := ⟨"caseStyle", "case_style"⟩

/-- The access level. -/
def access : Key := ⟨"access", "access"⟩

/-- Modules to import. -/
def imports : Key := ⟨"imports", "imports"⟩

/-- Whether to write the extension. -/
def expand : Key := ⟨"expand", "expand"⟩

/-- All keys in the order in which they are checked. -/
def all : List Key :=
  [input, output, enumName, pattern, prefixes, suffixes, caseStyle, access, imports, expand]

end Key

/-- A member's name that some key uses. -/
def isUsed (members : List (String × Json.Value)) (name : String) : Bool :=
  Key.all.any fun key => (key.find? members).any fun (used, _) => used == name

/-- Stop at the first member that no key uses. -/
def refuseUnknown (members : List (String × Json.Value)) : Except MemberFault Unit :=
  match members.find? fun (name, _) => !isUsed members name with
  | none => .ok ()
  | some (name, _) => .error ⟨name, .unknownKey⟩

/-- The first fault of some members, unless the name of one of them is broken. -/
def firstFault [Platform] (members : List (String × Json.Value)) (fault : MemberFault) :
    MemberFault :=
  if ∀ member ∈ members, Text.IsEncodable member.1 then fault else ⟨"", .brokenText⟩

/-- The settings that the members of an object give, each read by its key. -/
def ConfigFile.ofKeys [Platform] (members : List (String × Json.Value)) :
    Except MemberFault ConfigFile := do
  let input ← Key.input.read members (located textOf)
  let output ← Key.output.read members (located textOf)
  let enumName ← Key.enumName.read members (located textOf)
  let pattern ← Key.pattern.read members (located textOf)
  let prefixes ← Key.prefixes.read members textsOf
  let suffixes ← Key.suffixes.read members textsOf
  let caseStyle ← Key.caseStyle.read members (located textOf)
  let access ← Key.access.read members (located textOf)
  let imports ← Key.imports.read members textsOf
  let expand ← Key.expand.read members (located boolOf)
  refuseUnknown members
  return {
    input, output, enumName, pattern, prefixes, suffixes, caseStyle, access, imports, expand }

/-- The settings that the members of an object give. -/
def ConfigFile.ofMembers [Platform] (members : List (String × Json.Value)) :
    Except MemberFault ConfigFile :=
  (ConfigFile.ofKeys members).mapError (firstFault members)

end HeaderEnum.Settings
