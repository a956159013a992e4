import HeaderEnum.Proofs.Header.Grammar
import HeaderEnum.Proofs.Swift.Agreement

/-!
# Accepted markers and what they render

A case that declares one name is accepted for the arguments of its value marker: there is one, without
a label and not empty. Its form does not count, so more is accepted than a bare identifier. Seen from
the text that the marker renders, arguments can be told apart as long as no label is empty and no
expression holds a comma or a colon. On such markers a text that names one bare identifier is rendered
exactly by the accepted cases of that identifier, and cases that render the same are accepted alike.
-/

namespace HeaderEnum.Swift

open Header (IsAsciiIdentifier)

/-! ## Texts of arguments -/

/-- A text that can only be one argument without a label: it is not empty and holds neither of the
characters that part arguments and labels. -/
structure IsPlain (text : String) : Prop where
  /-- It is not empty. -/
  ne_empty : text ≠ ""
  /-- It parts no arguments. -/
  no_comma : ',' ∉ text.toList
  /-- It parts no label from an expression. -/
  no_colon : ':' ∉ text.toList

/-- A bare identifier is plain. -/
theorem isPlain_of_isAsciiIdentifier {text : String} (h : IsAsciiIdentifier text.toList) :
    IsPlain text := by
  have hword := h.isAsciiWord
  refine ⟨?_, fun hc => ?_, fun hc => ?_⟩
  · rintro rfl
    obtain ⟨c, rest, hnil, -⟩ := h
    simp at hnil
  · have hcomma := hword ',' hc
    contradiction
  · have hcolon := hword ':' hc
    contradiction

/-- Joined texts that hold no comma and are not empty are one text. -/
theorem eq_singleton_of_joinWith {texts : List String} {text : String} (hne : text ≠ "")
    (hcomma : ',' ∉ text.toList) (h : Text.joinWith ", " texts = text) : texts = [text] := by
  cases texts with
  | nil => exact absurd h.symm hne
  | cons first rest =>
    cases rest with
    | nil => exact congrArg (fun text => [text]) h
    | cons second others =>
      refine absurd ?_ hcomma
      rw [← h]
      simp [Text.joinWith]

/-- An argument whose label is not empty is written without a colon only if it has no label. -/
theorem eq_of_render {argument : Argument} {text : String} (hlabel : argument.label ≠ some "")
    (hcolon : ':' ∉ text.toList) (h : argument.render = text) : argument = ⟨text, none⟩ := by
  obtain ⟨expression, label⟩ := argument
  cases label with
  | none => exact congrArg (Argument.mk · none) h
  | some label =>
    have hne : label ≠ "" := fun he => hlabel (congrArg some he)
    rw [Argument.render] at h
    simp only [if_neg hne] at h
    refine absurd ?_ hcolon
    rw [← h]
    simp

/-! ## Texts of markers -/

/-- The text of a value marker with one constant. -/
def markedText (constant : String) : String := "@" ++ valueMarker ++ "(" ++ constant ++ ")"

/-- No label of a marker is empty. -/
def Marker.HasFullLabels (marker : Marker) : Prop :=
  ∀ argument ∈ marker.arguments, argument.label ≠ some ""

/-- Only the labels decide. -/
instance (marker : Marker) : Decidable marker.HasFullLabels :=
  inferInstanceAs (Decidable (∀ argument ∈ marker.arguments, argument.label ≠ some ""))

/-- A value marker renders as its arguments are joined. -/
theorem Marker.render_eq_markedText_iff {marker : Marker} (hname : marker.name = valueMarker)
    {constant : String} : marker.render = markedText constant ↔
      Text.joinWith ", " (marker.arguments.map Argument.render) = constant := by
  rw [render, hname, markedText, String.append_left_inj, String.append_right_inj]

/-- A value marker with one argument without a label renders it. -/
theorem Marker.render_of_arguments {marker : Marker} (hname : marker.name = valueMarker)
    {constant : String} (h : marker.arguments = [{ expression := constant }]) :
    marker.render = markedText constant := by
  rw [render_eq_markedText_iff hname, h]
  rfl

/-- A value marker with full labels that renders a plain text has that text as its argument. -/
theorem Marker.arguments_of_render {marker : Marker} (hname : marker.name = valueMarker)
    (hlabels : marker.HasFullLabels) {constant : String} (hplain : IsPlain constant)
    (h : marker.render = markedText constant) :
    marker.arguments = [{ expression := constant }] := by
  have hjoined := (render_eq_markedText_iff hname).mp h
  have hone := eq_singleton_of_joinWith hplain.ne_empty hplain.no_comma hjoined
  obtain ⟨argument, harguments, hrender⟩ := List.map_eq_singleton_iff.mp hone
  have hmem : argument ∈ marker.arguments := by
    rw [harguments]
    exact List.mem_singleton.mpr rfl
  rw [harguments, eq_of_render (hlabels argument hmem) hplain.no_colon hrender]

/-! ## Cases -/

namespace CaseDeclaration

variable {declaration : CaseDeclaration} {constant name : String}

/-- The case has one value marker, and it renders the constant. -/
def RendersAs (declaration : CaseDeclaration) (constant : String) : Prop :=
  ∃ marker, declaration.valueMarkers = [marker] ∧ marker.render = markedText constant

/-- No label of a value marker is empty. -/
def HasFullLabels (declaration : CaseDeclaration) : Prop :=
  ∀ marker ∈ declaration.valueMarkers, marker.HasFullLabels

/-- No expression in a value marker parts arguments or labels. -/
def HasPlainExpressions (declaration : CaseDeclaration) : Prop :=
  ∀ marker ∈ declaration.valueMarkers, ∀ argument ∈ marker.arguments,
    ',' ∉ argument.expression.toList ∧ ':' ∉ argument.expression.toList

/-- Only the labels decide. -/
instance (declaration : CaseDeclaration) : Decidable declaration.HasFullLabels :=
  inferInstanceAs (Decidable (∀ marker ∈ declaration.valueMarkers, marker.HasFullLabels))

/-- Only the expressions decide. -/
instance (declaration : CaseDeclaration) : Decidable declaration.HasPlainExpressions :=
  inferInstanceAs (Decidable (∀ marker ∈ declaration.valueMarkers, ∀ argument ∈ marker.arguments,
    ',' ∉ argument.expression.toList ∧ ':' ∉ argument.expression.toList))

/-- The one value marker of a case is one of its value markers. -/
theorem mem_of_valueMarkers {marker : Marker} (h : declaration.valueMarkers = [marker]) :
    marker ∈ declaration.valueMarkers := by
  rw [h]
  exact List.mem_singleton.mpr rfl

/-- The one value marker of a case has the name of value markers. -/
theorem name_of_valueMarkers {marker : Marker} (h : declaration.valueMarkers = [marker]) :
    marker.name = valueMarker :=
  eq_of_beq (List.mem_filter.mp (mem_of_valueMarkers h)).2

/-- A case that declares one name is accepted for its constant. -/
theorem problem?_eq_none_iff_constant (h : declaration.elements = [{ name := name }]) :
    declaration.problem? = none ↔
      ∃ constant, declaration.valueExpression = some constant ∧ constant ≠ "" := by
  rw [problem?_eq_none_iff]
  constructor
  · rintro ⟨arm, harm⟩
    exact ⟨arm.2, harm.constant, harm.named⟩
  · rintro ⟨constant, hconstant, hne⟩
    exact ⟨(name, constant), h, hconstant, hne⟩

/-- A case renders the constant that it has. -/
theorem rendersAs_of_valueExpression (h : declaration.valueExpression = some constant) :
    declaration.RendersAs constant := by
  obtain ⟨marker, hmarker, harguments⟩ := valueExpression_eq_some_iff.mp h
  exact ⟨marker, hmarker, Marker.render_of_arguments (name_of_valueMarkers hmarker) harguments⟩

/-- With full labels a case has the plain constant that it renders. -/
theorem rendersAs_iff_valueExpression (hlabels : declaration.HasFullLabels)
    (hplain : IsPlain constant) :
    declaration.RendersAs constant ↔ declaration.valueExpression = some constant := by
  refine ⟨?_, rendersAs_of_valueExpression⟩
  rintro ⟨marker, hmarker, hrender⟩
  have hfull := hlabels marker (mem_of_valueMarkers hmarker)
  have harguments := Marker.arguments_of_render (name_of_valueMarkers hmarker) hfull hplain hrender
  exact valueExpression_eq_some_iff.mpr ⟨marker, hmarker, harguments⟩

/-- A case with plain expressions has a plain constant, unless it is empty. -/
theorem HasPlainExpressions.isPlain (h : declaration.HasPlainExpressions)
    (hconstant : declaration.valueExpression = some constant) (hne : constant ≠ "") :
    IsPlain constant := by
  obtain ⟨marker, hmarker, harguments⟩ := valueExpression_eq_some_iff.mp hconstant
  have hmem : { expression := constant } ∈ marker.arguments := by
    rw [harguments]
    exact List.mem_singleton.mpr rfl
  obtain ⟨hcomma, hcolon⟩ := h marker (mem_of_valueMarkers hmarker) _ hmem
  exact ⟨hne, hcomma, hcolon⟩

/-- Cases whose value markers render to the same texts render as the same constants. -/
theorem RendersAs.of_render_eq {other : CaseDeclaration} (h : declaration.RendersAs constant)
    (hsame : other.valueMarkers.map Marker.render = declaration.valueMarkers.map Marker.render) :
    other.RendersAs constant := by
  obtain ⟨marker, hmarker, hrender⟩ := h
  rw [hmarker, List.map_singleton, hrender] at hsame
  exact List.map_eq_singleton_iff.mp hsame

/-- A case that renders as an accepted one with plain expressions is accepted, if its labels are
full. -/
theorem problem?_eq_none_of_render_eq {other : CaseDeclaration} {otherName : String}
    (h : declaration.elements = [{ name := name }])
    (ho : other.elements = [{ name := otherName }]) (hplain : declaration.HasPlainExpressions)
    (hlabels : other.HasFullLabels)
    (hsame : other.valueMarkers.map Marker.render = declaration.valueMarkers.map Marker.render)
    (haccepted : declaration.problem? = none) : other.problem? = none := by
  obtain ⟨constant, hconstant, hne⟩ := (problem?_eq_none_iff_constant h).mp haccepted
  have hrenders := (rendersAs_of_valueExpression hconstant).of_render_eq hsame
  have hother := (rendersAs_iff_valueExpression hlabels (hplain.isPlain hconstant hne)).mp hrenders
  exact (problem?_eq_none_iff_constant ho).mpr ⟨constant, hother, hne⟩

/-- Acceptance and rendering of a case that declares one name. It is accepted exactly for one value
marker with one argument, which has no label and is not empty; then it renders that argument. Where
no label is empty, it renders a bare identifier exactly when it is accepted with one, and it is
accepted like every other such case whose value markers render to the same texts, as long as no
expression holds a comma or a colon. -/
theorem accepted_against_rendered (declaration : CaseDeclaration) {name : String}
    (h : declaration.elements = [{ name := name }]) :
    (declaration.problem? = none ↔ ∃ marker constant, declaration.valueMarkers = [marker] ∧
        marker.arguments = [{ expression := constant }] ∧ constant ≠ "") ∧
      (declaration.problem? = none →
        ∃ constant, declaration.valueExpression = some constant ∧
          declaration.RendersAs constant) ∧
      (declaration.HasFullLabels →
        ((∃ word, IsAsciiIdentifier word.toList ∧ declaration.RendersAs word) ↔
          declaration.problem? = none ∧
            ∃ word, IsAsciiIdentifier word.toList ∧ declaration.valueExpression = some word)) ∧
      ∀ (other : CaseDeclaration) (otherName : String),
        other.elements = [{ name := otherName }] →
        declaration.HasFullLabels → other.HasFullLabels →
        declaration.HasPlainExpressions → other.HasPlainExpressions →
        other.valueMarkers.map Marker.render = declaration.valueMarkers.map Marker.render →
        (declaration.problem? = none ↔ other.problem? = none) := by
  refine ⟨?_, ?_, ?_, ?_⟩
  · rw [problem?_eq_none_iff_constant h]
    simp only [valueExpression_eq_some_iff]
    constructor
    · rintro ⟨constant, ⟨marker, hmarker, harguments⟩, hne⟩
      exact ⟨marker, constant, hmarker, harguments, hne⟩
    · rintro ⟨marker, constant, hmarker, harguments, hne⟩
      exact ⟨constant, ⟨marker, hmarker, harguments⟩, hne⟩
  · intro haccepted
    obtain ⟨constant, hconstant, -⟩ := (problem?_eq_none_iff_constant h).mp haccepted
    exact ⟨constant, hconstant, rendersAs_of_valueExpression hconstant⟩
  · intro hlabels
    constructor
    · rintro ⟨word, hword, hrenders⟩
      have hplain := isPlain_of_isAsciiIdentifier hword
      have hconstant := (rendersAs_iff_valueExpression hlabels hplain).mp hrenders
      exact ⟨(problem?_eq_none_iff_constant h).mpr ⟨word, hconstant, hplain.ne_empty⟩, word, hword,
        hconstant⟩
    · rintro ⟨-, word, hword, hconstant⟩
      exact ⟨word, hword, rendersAs_of_valueExpression hconstant⟩
  · intro other otherName ho hlabels hotherLabels hplain hotherPlain hsame
    exact ⟨problem?_eq_none_of_render_eq h ho hplain hotherLabels hsame,
      problem?_eq_none_of_render_eq ho h hotherPlain hlabels hsame.symm⟩

/-- Two cases with the same value marker, one of them behind another marker. -/
theorem accepted_against_rendered_otherMarkers :
    let value : Marker := { name := valueMarker, arguments := [{ expression := "kA" }] }
    let alone : CaseDeclaration := { elements := [{ name := "a" }], markers := [value] }
    let behind : CaseDeclaration := {
      elements := [{ name := "b" }], markers := [{ name := "available" }, value] }
    alone.elements = [{ name := "a" }] ∧ behind.elements = [{ name := "b" }] ∧
      alone.HasFullLabels ∧ behind.HasFullLabels ∧ alone.HasPlainExpressions ∧
      behind.HasPlainExpressions ∧
      behind.valueMarkers.map Marker.render = alone.valueMarkers.map Marker.render ∧
      alone.problem? = none ∧ behind.problem? = none ∧
      ∃ word, IsAsciiIdentifier word.toList ∧ alone.RendersAs word := by
  intro value alone behind
  have halone : alone.HasFullLabels := by decide
  have hbehind : behind.HasFullLabels := by decide
  have halonePlain : alone.HasPlainExpressions := by decide
  have hbehindPlain : behind.HasPlainExpressions := by decide
  have hsame : behind.valueMarkers.map Marker.render = alone.valueMarkers.map Marker.render := by
    decide
  have haccepted : alone.problem? = none := by decide
  have hword : IsAsciiIdentifier "kA".toList :=
    ⟨'k', ['A'], rfl, .inr rfl, by simp [Letter.isAsciiWord]⟩
  obtain ⟨-, -, hrendered, halike⟩ := accepted_against_rendered alone rfl
  have hother := (halike behind "b" rfl halone hbehind halonePlain hbehindPlain hsame).mp haccepted
  exact ⟨rfl, rfl, halone, hbehind, halonePlain, hbehindPlain, hsame, haccepted, hother,
    (hrendered halone).mpr ⟨haccepted, "kA", hword, by decide⟩⟩

/-- A case whose value marker renders no bare identifier is accepted, and one whose value marker
renders a bare identifier is refused, since an empty label is not written. -/
theorem accepted_apart_from_rendered :
    let sum : CaseDeclaration := {
      elements := [{ name := "a" }]
      markers := [{ name := valueMarker, arguments := [{ expression := "k + 1" }] }] }
    let labelled : CaseDeclaration := {
      elements := [{ name := "a" }]
      markers := [{ name := valueMarker, arguments := [⟨"kA", some ""⟩] }] }
    sum.problem? = none ∧ (¬∃ word, IsAsciiIdentifier word.toList ∧ sum.RendersAs word) ∧
      labelled.problem? = some .invalidArguments ∧
        ∃ word, IsAsciiIdentifier word.toList ∧ labelled.RendersAs word := by
  intro sum labelled
  have hword : IsAsciiIdentifier "kA".toList :=
    ⟨'k', ['A'], rfl, .inr rfl, by simp [Letter.isAsciiWord]⟩
  refine ⟨by decide, ?_, by decide, "kA", hword, _, rfl, by decide⟩
  rintro ⟨word, hidentifier, hrenders⟩
  have hlabels : sum.HasFullLabels := by decide
  have hconstant := (rendersAs_iff_valueExpression hlabels
    (isPlain_of_isAsciiIdentifier hidentifier)).mp hrenders
  have hsum : sum.valueExpression = some "k + 1" := rfl
  cases hsum.symm.trans hconstant
  have hspace := hidentifier.isAsciiWord ' ' (by decide)
  contradiction

end CaseDeclaration

end HeaderEnum.Swift
