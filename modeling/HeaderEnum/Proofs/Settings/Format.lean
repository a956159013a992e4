import HeaderEnum.Proofs.Json.Limits
import HeaderEnum.Proofs.Result
import HeaderEnum.Settings.Settings
import Mathlib.Data.List.Basic

/-!
# The format of a config file

A config file is an object whose members are keys, each with null or a value of the key's type. Its
documented form knows one name for each key and takes only true and false for a truth value. What is
loaded is this and somewhat more: a key may stand under its second name when the first one is
missing, and a truth value may be a zero, a one or one of some words. Any other content is a fault,
unless the reader of JSON texts cannot bear it.
-/

namespace HeaderEnum.Settings

open Json (Value)

/-- Both names of a key, the preferred one first. -/
def Key.names (key : Key) : List String := [key.label, key.second]

/-- The preferred name of a key alone. -/
def Key.labels (key : Key) : List String := [key.label]

/-- An object gives a value under the first of some names that it has. -/
inductive Gives (members : List (String × Value)) : List String → String → Value → Prop
  | first {name : String} {others : List String} {value : Value} :
    members.lookup name = some value → Gives members (name :: others) name value
  | later {name used : String} {others : List String} {value : Value} :
    members.lookup name = none → Gives members others used value →
    Gives members (name :: others) used value

/-- A field of a config file is read from the value under some names. It is absent when there is no
such value or null. -/
def Holds {α : Type} (reads : Value → α → Prop) (members : List (String × Value))
    (names : List String) : Option α → Prop
  | none => ∀ used value, Gives members names used value → value = .null
  | some field => ∃ used value, Gives members names used value ∧ reads value field

/-- The value is the text. -/
def IsText (value : Value) (text : String) : Prop := value = .text text

/-- The value is a list of the texts. -/
def IsTexts (value : Value) (texts : List String) : Prop := value = .array (texts.map .text)

/-- The value is the truth value. -/
def IsBool (value : Value) (meant : Bool) : Prop := value = .bool meant

/-- A text with its capitals A to Z made small. -/
def inSmallLetters (text : String) : String := String.ofList (text.toList.map Char.toLower)

/-- The value stands for the truth value. -/
inductive MeansBool : Value → Bool → Prop
  /-- A truth value stands for itself. -/
  | bool (meant : Bool) : MeansBool (.bool meant) meant
  /-- A zero is false. -/
  | zero : MeansBool (.integer 0) false
  /-- A one is true. -/
  | one : MeansBool (.integer 1) true
  /-- A decimal whose nearest binary number is zero is false. -/
  | nearZero {decimal : Json.Decimal} : (decimal.toFloat == 0.0) = true →
    MeansBool (.decimal decimal) false
  /-- A decimal whose nearest binary number is one is true. -/
  | nearOne {decimal : Json.Decimal} : (decimal.toFloat == 0.0) = false →
    (decimal.toFloat == 1.0) = true → MeansBool (.decimal decimal) true
  /-- Some words are false. -/
  | no {text : String} : inSmallLetters text ∈ ["0", "off", "f", "false", "n", "no"] →
    MeansBool (.text text) false
  /-- Some words are true. -/
  | yes {text : String} : inSmallLetters text ∈ ["1", "on", "t", "true", "y", "yes"] →
    MeansBool (.text text) true

/-- The members of an object make a config file, given the names of each key and what stands for a
truth value. -/
structure Format (names : Key → List String) (truth : Value → Bool → Prop)
    (members : List (String × Value)) (file : ConfigFile) : Prop where
  /-- Every member gives some key its value. -/
  known : ∀ name ∈ members.map Prod.fst, ∃ key ∈ Key.all, ∃ value,
    Gives members (names key) name value
  /-- The header to scan is a text. -/
  input : Holds IsText members (names .input) file.input
  /-- The file to write is a text. -/
  output : Holds IsText members (names .output) file.output
  /-- The name of the enum is a text. -/
  enumName : Holds IsText members (names .enumName) file.enumName
  /-- The pattern is a text. -/
  pattern : Holds IsText members (names .pattern) file.pattern
  /-- Prefixes are texts. -/
  prefixes : Holds IsTexts members (names .prefixes) file.prefixes
  /-- Suffixes are texts. -/
  suffixes : Holds IsTexts members (names .suffixes) file.suffixes
  /-- The case style is a text. -/
  caseStyle : Holds IsText members (names .caseStyle) file.caseStyle
  /-- The access level is a text. -/
  access : Holds IsText members (names .access) file.access
  /-- Imports are texts. -/
  imports : Holds IsTexts members (names .imports) file.imports
  /-- Whether to write the extension is a truth value. -/
  expand : Holds truth members (names .expand) file.expand

/-- A content that can be judged by its form: the reader of JSON texts bears it, and what stands
there for a truth value is one. -/
structure IsStrict [Platform] (bytes : ByteArray) : Prop where
  /-- Its numbers are short enough and its nesting is flat enough. -/
  bearable : ∀ text cause, Disk.textOfBytes bytes = .ok text →
    Json.parse text ≠ .error (.crash cause)
  /-- No number and no word is taken for a truth value. -/
  truth : ∀ text members used value meant, Disk.textOfBytes bytes = .ok text →
    Json.parse text = .ok (.object members) → Gives members Key.expand.names used value →
    MeansBool value meant → IsBool value meant

variable {members : List (String × Value)}

/-- An object gives no two values under some names. -/
theorem Gives.unique {names : List String} {first second : String} {one other : Value}
    (hf : Gives members names first one) (hs : Gives members names second other) :
    first = second ∧ one = other := by
  induction hf with
  | first h =>
    cases hs with
    | first hother => exact ⟨rfl, Option.some.inj (h.symm.trans hother)⟩
    | later hnone => exact nomatch h.symm.trans hnone
  | later hnone _ ih =>
    cases hs with
    | first hother => exact nomatch hnone.symm.trans hother
    | later _ hother => exact ih hother

/-- Under its preferred name alone a key is given what stands there. -/
theorem gives_labels_iff {key : Key} {used : String} {value : Value} :
    Gives members key.labels used value ↔
      used = key.label ∧ members.lookup key.label = some value := by
  constructor
  · generalize hl : key.labels = names
    intro h
    cases h with
    | first hf =>
      obtain ⟨rfl, rfl⟩ := List.cons.inj hl
      exact ⟨rfl, hf⟩
    | later _ h =>
      obtain ⟨-, rfl⟩ := List.cons.inj hl
      exact nomatch h
  · rintro ⟨rfl, hf⟩
    exact .first hf

/-- A value under the preferred name of a key is given under both. -/
theorem Gives.of_labels {key : Key} {used : String} {value : Value}
    (h : Gives members key.labels used value) : Gives members key.names used value := by
  obtain ⟨rfl, hl⟩ := gives_labels_iff.mp h
  exact .first hl

/-- A field under the preferred name of its key is the field under both, when every member is the
preferred name of some key. -/
theorem Holds.of_labels {α : Type} {reads : Value → α → Prop}
    (hknown : ∀ name ∈ members.map Prod.fst, ∃ key ∈ Key.all, ∃ value,
      Gives members key.labels name value)
    {key : Key} (hkey : key ∈ Key.all) {field : Option α}
    (h : Holds reads members key.labels field) : Holds reads members key.names field := by
  -- no second name is the preferred name of another key
  have hsecond : ∀ key ∈ Key.all, ∀ other ∈ Key.all,
      key.second = other.label → key.second = key.label := by decide
  cases field with
  | some found =>
    obtain ⟨used, value, hg, hr⟩ := h
    exact ⟨used, value, hg.of_labels, hr⟩
  | none =>
    intro used value hg
    cases hg with
    | first hl => exact h key.label value (.first hl)
    | later hn hlater =>
      cases hlater with
      | later _ hnone => exact nomatch hnone
      | first hl =>
        obtain ⟨before, after, he, -⟩ := List.lookup_eq_some_iff.mp hl
        obtain ⟨other, hother, _, hg⟩ := hknown key.second (by simp [he])
        rw [hsecond key hkey other hother (gives_labels_iff.mp hg).1] at hl
        exact nomatch hn.symm.trans hl

/-- The form of an object with one name for each key is its form with two. -/
theorem Format.of_labels {truth : Value → Bool → Prop} {file : ConfigFile}
    (h : Format Key.labels truth members file) : Format Key.names truth members file := by
  have hlabel {α : Type} {reads : Value → α → Prop} {key : Key} (hkey : key ∈ Key.all)
      {field : Option α} (hf : Holds reads members key.labels field) :
      Holds reads members key.names field := hf.of_labels h.known hkey
  refine ⟨?_, hlabel (by decide) h.input, hlabel (by decide) h.output,
    hlabel (by decide) h.enumName, hlabel (by decide) h.pattern, hlabel (by decide) h.prefixes,
    hlabel (by decide) h.suffixes, hlabel (by decide) h.caseStyle, hlabel (by decide) h.access,
    hlabel (by decide) h.imports, hlabel (by decide) h.expand⟩
  intro name hm
  obtain ⟨key, hkey, value, hg⟩ := h.known name hm
  exact ⟨key, hkey, value, hg.of_labels⟩

/-- Within the limits of the reader a content can be judged by its form as soon as what stands there
for a truth value is one. -/
theorem IsStrict.of_not_isBeyond [Platform] {bytes : ByteArray}
    (hwithin : ∀ text, Disk.textOfBytes bytes = .ok text →
      ¬Json.IsBeyond Platform.jsonDepth text.toList)
    (htruth : ∀ text members used value meant, Disk.textOfBytes bytes = .ok text →
      Json.parse text = .ok (.object members) → Gives members Key.expand.names used value →
      MeansBool value meant → IsBool value meant) : IsStrict bytes :=
  ⟨fun text _ ht hp => hwithin text ht (Json.isBeyond_of_parse hp), htruth⟩

namespace ConfigFile

section

variable [Platform] {path : Path} {bytes : ByteArray}

end

end ConfigFile

end HeaderEnum.Settings
