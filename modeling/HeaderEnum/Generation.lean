import HeaderEnum.Swift.Source

/-!
# From header to file text

The whole generation without any file: entries of the header, then the text of the Swift file.
Warnings come in the order of the stages, and a failure carries those collected before it.
-/

namespace HeaderEnum

/-- What a generation produces. -/
structure Generated where
  /-- The entries of the enum. -/
  entries : List Naming.Entry
  /-- All warnings in order. -/
  warnings : List Warning
  /-- The text of the file. -/
  text : String
  deriving DecidableEq, Repr

/-- Why a header gives no file. -/
inductive GenerationFault where
  /-- Two constants want one identifier. -/
  | collision (collision : Naming.Collision)
  /-- The expansion would reject the enum. -/
  | declaration (diagnostic : Swift.Diagnostic)
  deriving DecidableEq, Repr

/-- A fault with the warnings before it. -/
structure GenerationFailure where
  /-- The fault. -/
  fault : GenerationFault
  /-- The warnings before it, in order. -/
  warnings : List Warning
  deriving DecidableEq, Repr

/-- Generate the text of a file from the text of a header. -/
def generate (rules : Naming.Rules) (words : Naming.ReservedWords) (layout : Swift.Layout)
    (header : String) : Except GenerationFailure Generated :=
  match rules.entriesOf words header with
  | .error clash => .error ⟨.collision clash.collision, clash.warnings⟩
  | .ok ⟨entries, warnings⟩ =>
    match layout.emit entries with
    | .error diagnostic => .error ⟨.declaration diagnostic, warnings⟩
    | .ok text => .ok ⟨entries, warnings ++ Swift.emissionWarnings entries, text⟩

end HeaderEnum
