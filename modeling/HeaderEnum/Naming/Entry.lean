import HeaderEnum.Header.Scan
import HeaderEnum.Naming.Affix
import HeaderEnum.Naming.Identifier
import HeaderEnum.Naming.Owners
import HeaderEnum.Naming.ReservedWords
import HeaderEnum.Naming.Style

/-!
# Entries of an enum

From the constants of a header to case names. Each constant is selected, stripped, spelled and made
an identifier on its own; the identifiers must then be distinct, or the first constant that meets a
taken one is reported together with the warnings that came before it.
-/

namespace HeaderEnum.Naming

/-- Rules that turn constants into case names. -/
structure Rules where
  /-- Constants that take part. -/
  selects : String → Bool := fun _ => true
  /-- Prefixes to drop. -/
  prefixes : List String := []
  /-- Suffixes to drop. -/
  suffixes : List String := []
  /-- Spelling of case names. -/
  style : CaseStyle := .lowerCamel

/-- One constant with every form that its name takes. -/
structure Derived where
  /-- The constant of the header. -/
  constant : String
  /-- The name without affixes. -/
  stripped : String
  /-- The stripped name in the case style. -/
  styled : String
  /-- The identifier made of the styled name. -/
  identifier : String
  deriving DecidableEq, Repr

/-- What becomes of one constant. -/
inductive Derivation where
  /-- It is not selected. -/
  | excluded
  /-- Its name is empty without affixes. -/
  | emptied
  /-- It has an identifier. -/
  | named (derived : Derived)
  deriving DecidableEq, Repr

/-- Take one constant through all rules. -/
def Rules.derive (rules : Rules) (constant : String) : Derivation :=
  if rules.selects constant then
    let stripped := dropAffixes constant rules.prefixes rules.suffixes
    if stripped = "" then .emptied
    else
      let styled := rules.style.apply stripped
      .named ⟨constant, stripped, styled, sanitize styled⟩
  else .excluded

/-- The warning that a derivation gives rise to. -/
def Derivation.warnings (constant : String) : Derivation → List Warning
  | .emptied => [.emptied constant]
  | _ => []

/-- A case of the enum to be written. -/
structure Entry where
  /-- The constant of the header. -/
  constant : String
  /-- The case name, quoted where the target syntax asks for it. -/
  identifier : String
  deriving DecidableEq, Repr

/-- Entries in order, warnings in order, and the collision that ended the work, if one did. -/
structure Collected where
  /-- Entries of the constants before a collision. -/
  entries : List Entry
  /-- Warnings about the constants before a collision. -/
  warnings : List Warning
  /-- The first collision. -/
  collision : Option Collision
  deriving DecidableEq, Repr

/-- Derive constants in order until one meets an identifier that another one owns. -/
def Rules.collect (rules : Rules) (words : ReservedWords) : Owners → List String → Collected
  | _, [] => ⟨[], [], none⟩
  | owners, constant :: rest =>
    match rules.derive constant with
    | .excluded => rules.collect words owners rest
    | .emptied =>
      let others := rules.collect words owners rest
      { others with warnings := .emptied constant :: others.warnings }
    | .named derived =>
      match owners.claim derived.identifier constant with
      | .error collision => ⟨[], [], some collision⟩
      | .ok owners =>
        let others := rules.collect words owners rest
        { others with entries := ⟨constant, words.escape derived.identifier⟩ :: others.entries }

/-- Entries of a header and the warnings about it. -/
structure Entries where
  /-- One entry for each constant that has an identifier, in the order of the header. -/
  entries : List Entry
  /-- Repeated definitions first, then emptied names. -/
  warnings : List Warning
  deriving DecidableEq, Repr

/-- A collision with the warnings that precede it. -/
structure Clash where
  /-- The collision. -/
  collision : Collision
  /-- All warnings up to it. -/
  warnings : List Warning
  deriving DecidableEq, Repr

/-- The entries of a header under the rules, or the first collision. -/
def Rules.entriesOf (rules : Rules) (words : ReservedWords) (text : String) :
    Except Clash Entries :=
  let scan := Header.scan text
  let collected := rules.collect words Owners.empty scan.constants
  let warnings := scan.warnings ++ collected.warnings
  match collected.collision with
  | some collision => .error ⟨collision, warnings⟩
  | none => .ok ⟨collected.entries, warnings⟩

end HeaderEnum.Naming
