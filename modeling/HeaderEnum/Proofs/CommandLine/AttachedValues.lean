import HeaderEnum.Proofs.Settings.Placement
import Mathlib.Data.List.Basic
import Mathlib.Data.List.Induction

/-!
# Values attached to flags

A command line whose words are switches and flags with a value behind an equals sign is taken as it
stands, whatever the values look like. A flag for one value has the last of its values, a flag for
several has all of them in order, and a switch is on when it occurs. So only the order among the words
of one flag counts. Values that are a bare separator are not covered.
-/

namespace HeaderEnum.CommandLine

open Settings (flagged)

/-! ## Words -/

/-- A word of a command line that carries all it says. -/
inductive Word where
  /-- A flag with a value behind an equals sign. -/
  | value (flag : Flag) (text : String) (takes : flag.takesValue = true) (plain : text ≠ "--")
  /-- The switch for the extension. -/
  | expand
  /-- The switch for logging. -/
  | verbose
  /-- The same switch as one letter. -/
  | shortVerbose

/-- The first spelling of a flag. -/
def Flag.spelling (flag : Flag) : String := flag.spellings.headD ""

namespace Word

/-- The flag of a word. -/
def flag : Word → Flag
  | value flag _ _ _ => flag
  | expand => .expand
  | verbose => .verbose
  | shortVerbose => .verbose

/-- A word as it is written. -/
def text : Word → String
  | value flag text _ _ => flag.spelling ++ "=" ++ text
  | expand => "--expand"
  | verbose => "--verbose"
  | shortVerbose => "-v"

/-- What a word looks like. -/
def shape : Word → Shape
  | value flag text _ _ => .flag flag flag.spelling (some text)
  | expand => .flag .expand "--expand" none
  | verbose => .flag .verbose "--verbose" none
  | shortVerbose => .flag .verbose "-v" none

/-- The value that a word gives to a flag. -/
def valueFor? (wanted : Flag) : Word → Option String
  | value flag text _ _ => if flag = wanted then some text else none
  | _ => none

/-- Take in a word. -/
def takeIn (arguments : Arguments) : Word → Arguments
  | value flag text _ _ => arguments.give flag text
  | word => arguments.turnOn word.flag

end Word

/-- All values that words give to a flag, in order. -/
def valuesFor (flag : Flag) (words : List Word) : List String :=
  words.filterMap (Word.valueFor? flag)

/-- A flag occurs among words. -/
def occursIn (flag : Flag) (words : List Word) : Bool := words.any (·.flag = flag)

/-- What words say: the last value for a flag of one value, all values for a flag of several, and
whether a switch occurs. -/
def argumentsOf (words : List Word) : Arguments where
  input := (valuesFor .input words).getLast?
  output := (valuesFor .output words).getLast?
  enumName := (valuesFor .enumName words).getLast?
  pattern := (valuesFor .pattern words).getLast?
  prefixes := flagged (valuesFor .dropPrefix words)
  suffixes := flagged (valuesFor .dropSuffix words)
  caseStyle := (valuesFor .caseStyle words).getLast?
  access := (valuesFor .access words).getLast?
  imports := flagged (valuesFor .imports words)
  config := (valuesFor .config words).getLast?
  expand := occursIn .expand words
  verbose := occursIn .verbose words

/-- Each flag has the same words in the same order in both lists. -/
def SameForEachFlag (first second : List Word) : Prop :=
  ∀ flag, first.filter (·.flag = flag) = second.filter (·.flag = flag)

/-! ## The shape of a word -/

/-- What stands before the first equals sign is the name, and what stands behind it the value. -/
theorem splitAtEquals_append {name : List Char} (h : '=' ∉ name) (value : List Char) :
    splitAtEquals (name ++ '=' :: value) = (name, some value) := by
  have hname : (name ++ '=' :: value).takeWhile (· ≠ '=') = name := by
    rw [List.takeWhile_append_of_pos, List.takeWhile_cons_of_neg (by decide), List.append_nil]
    intro c hc
    rw [decide_eq_true_eq]
    rintro rfl
    exact h hc
  rw [splitAtEquals, hname, List.drop_left]

/-- No spelling holds an equals sign. -/
theorem ofSpelling?_of_mem {argument : String} (h : '=' ∈ argument.toList) :
    Flag.ofSpelling? argument = none := by
  have hno : ∀ entry ∈ Flag.table, '=' ∉ entry.1.toList := by decide
  rw [Flag.ofSpelling?, List.lookup_eq_none_iff]
  intro entry hm
  rw [bne_iff_ne]
  rintro rfl
  exact hno entry hm h

/-- A flag that takes a value is spelled with two hyphens and without an equals sign, and no other
flag is spelled so. -/
theorem spelling_of_takesValue {flag : Flag} (h : flag.takesValue = true) :
    Flag.ofSpelling? flag.spelling = some flag ∧ '=' ∉ flag.spelling.toList ∧
      ∃ rest, flag.spelling.toList = '-' :: '-' :: rest := by
  cases flag with
  | help => contradiction
  | expand => contradiction
  | verbose => contradiction
  | _ => exact ⟨by decide, by decide, _, rfl⟩

/-- A flag with an attached value looks like that flag with that value. -/
theorem shapeOf_attached {flag : Flag} (h : flag.takesValue = true) (value : String) :
    shapeOf (flag.spelling ++ "=" ++ value) = .ok (.flag flag flag.spelling (some value)) := by
  obtain ⟨hspelled, hequals, rest, hrest⟩ := spelling_of_takesValue h
  have htext : (flag.spelling ++ "=" ++ value).toList =
      flag.spelling.toList ++ '=' :: value.toList := by
    simp
  have hnone : Flag.ofSpelling? (flag.spelling ++ "=" ++ value) = none :=
    ofSpelling?_of_mem (by simp [htext])
  have hexact : exactWithValue? (flag.spelling ++ "=" ++ value).toList =
      some (.flag flag flag.spelling (some value)) := by
    rw [htext, exactWithValue?, splitAtEquals_append hequals]
    simp only [String.ofList_toList, hspelled, Option.map_some]
  unfold shapeOf
  split
  · simp only [hnone, hexact]
  · rename_i hshort
    rw [htext, hrest] at hshort
    exact absurd rfl (hshort _ _)

/-- A flag that is spelled in full looks like that flag. -/
theorem shapeOf_spelled {argument : String} {flag : Flag} {c : Char} {rest : List Char}
    (hhyphen : argument.toList = '-' :: c :: rest) (h : Flag.ofSpelling? argument = some flag) :
    shapeOf argument = .ok (.flag flag argument none) := by
  unfold shapeOf
  split
  · simp only [h]
  · rename_i hshort
    exact absurd hhyphen (hshort _ _)

/-- A word looks like what it is. -/
theorem shapeOf_text (word : Word) : shapeOf word.text = .ok word.shape := by
  cases word with
  | value flag text takes plain => exact shapeOf_attached takes text
  | expand => exact shapeOf_spelled rfl (by decide)
  | verbose => exact shapeOf_spelled rfl (by decide)
  | shortVerbose => exact shapeOf_spelled rfl (by decide)

/-- No word is a separator. -/
theorem text_ne_separator (word : Word) : word.text ≠ "--" := by
  cases word with
  | value flag text takes plain =>
    intro he
    have hmem : '=' ∈ "--".toList := by
      rw [← he]
      simp [Word.text]
    contradiction
  | expand => decide
  | verbose => decide
  | shortVerbose => decide

/-- Words look like what they are. -/
theorem shapesOf_words (words : List Word) :
    shapesOf (words.map Word.text) = .ok (words.map fun word => (word.text, word.shape)) := by
  induction words with
  | nil => rfl
  | cons word rest ih =>
    rw [List.map_cons, shapesOf, if_neg (text_ne_separator word), shapeOf_text]
    simp only [ih]
    rfl

/-! ## The use of words -/

section Use

variable (arguments : Arguments) (unused : List String) (argument spelling : String)
  (rest : List (String × Shape))

/-- An attached value is used with its flag, unless it is a separator. -/
theorem use_attached {flag : Flag} (h : flag.takesValue = true) {value : String}
    (hplain : value ≠ "--") :
    use arguments unused ((argument, .flag flag spelling (some value)) :: rest) =
      use (arguments.give flag value) unused rest := by
  rw [use, if_pos h, Arguments.takeIn, if_neg hplain]

/-- A switch is used alone, whatever follows it. -/
theorem use_switch {flag : Flag} (h : flag = .expand ∨ flag = .verbose) :
    use arguments unused ((argument, .flag flag spelling none) :: rest) =
      use (arguments.turnOn flag) unused rest := by
  have hno : flag.takesValue = false := by
    rcases h with rfl | rfl
    · rfl
    · rfl
  have hhelp : [flag].contains .help = false := by
    rcases h with rfl | rfl
    · rfl
    · rfl
  conv =>
    lhs
    unfold use
  simp only [hno, switches, hhelp, Bool.false_eq_true, if_false, List.foldl_cons, List.foldl_nil]

end Use

/-- Words are taken in from left to right. -/
theorem use_words (arguments : Arguments) (words : List Word) :
    use arguments [] (words.map fun word => (word.text, word.shape)) =
      .ok (.run (words.foldl Word.takeIn arguments)) := by
  induction words generalizing arguments with
  | nil => rfl
  | cons word rest ih =>
    rw [List.map_cons, List.foldl_cons, ← ih]
    cases word with
    | value flag text takes plain => exact use_attached arguments [] _ _ _ takes plain
    | expand => exact use_switch arguments [] _ _ _ (.inl rfl)
    | verbose => exact use_switch arguments [] _ _ _ (.inr rfl)
    | shortVerbose => exact use_switch arguments [] _ _ _ (.inr rfl)

/-- A value more for a flag of several values. -/
theorem flagged_concat (values : List String) (value : String) :
    flagged (values ++ [value]) = extended (flagged values) value := by
  rw [flagged, if_neg (by simp), extended, Settings.getD_flagged]

/-- A word more adds its value, if it has one for the flag. -/
theorem valuesFor_concat (flag : Flag) (words : List Word) (word : Word) :
    valuesFor flag (words ++ [word]) = valuesFor flag words ++ (word.valueFor? flag).toList := by
  rw [valuesFor, List.filterMap_append]
  rfl

/-- A word more turns its own switch on. -/
theorem occursIn_concat (flag : Flag) (words : List Word) (word : Word) :
    occursIn flag (words ++ [word]) = (occursIn flag words || word.flag = flag) := by
  simp [occursIn, List.any_append]

/-- What words say with one more is what they say with that one taken in. -/
theorem argumentsOf_concat (words : List Word) (word : Word) :
    argumentsOf (words ++ [word]) = word.takeIn (argumentsOf words) := by
  have hvalues : ∀ flag, valuesFor flag (words ++ [word]) =
      valuesFor flag words ++ (word.valueFor? flag).toList := fun flag =>
    valuesFor_concat flag words word
  have hoccurs : ∀ flag, occursIn flag (words ++ [word]) =
      (occursIn flag words || word.flag = flag) := fun flag => occursIn_concat flag words word
  cases word with
  | value flag text takes plain =>
    cases flag with
    | help => contradiction
    | expand => contradiction
    | verbose => contradiction
    | _ =>
      simp [argumentsOf, hvalues, hoccurs, Word.valueFor?, Word.flag, Word.takeIn, Arguments.give,
        Arguments.filled, flagged_concat]
  | expand =>
    simp [argumentsOf, hvalues, hoccurs, Word.valueFor?, Word.flag, Word.takeIn, Arguments.turnOn]
  | verbose =>
    simp [argumentsOf, hvalues, hoccurs, Word.valueFor?, Word.flag, Word.takeIn, Arguments.turnOn]
  | shortVerbose =>
    simp [argumentsOf, hvalues, hoccurs, Word.valueFor?, Word.flag, Word.takeIn, Arguments.turnOn]

/-- Words taken in one after another say together what they say as a whole. -/
theorem foldl_takeIn (words : List Word) : words.foldl Word.takeIn {} = argumentsOf words := by
  -- from the end, since the last value of a flag counts
  induction words using List.reverseRecOn with
  | nil => rfl
  | append_singleton words word ih =>
    rw [List.foldl_append, List.foldl_cons, List.foldl_nil, ih, argumentsOf_concat]

/-- Words are taken as what they say. -/
theorem parse_words (words : List Word) :
    parse (words.map Word.text) = .ok (.run (argumentsOf words)) := by
  rw [parse, shapesOf_words]
  simp only [use_words, foldl_takeIn]

/-! ## The order of words -/

/-- The values for a flag are those of its own words. -/
theorem valuesFor_filter (flag : Flag) (words : List Word) :
    valuesFor flag (words.filter (·.flag = flag)) = valuesFor flag words := by
  rw [valuesFor, valuesFor, List.filterMap_filter]
  refine List.filterMap_congr fun word _ => ?_
  cases word with
  | value other text takes plain =>
    by_cases ho : other = flag
    · simp [Word.flag, ho]
    · simp [Word.flag, Word.valueFor?, ho]
  | expand => simp [Word.valueFor?]
  | verbose => simp [Word.valueFor?]
  | shortVerbose => simp [Word.valueFor?]

/-- A flag occurs when it has words of its own. -/
theorem occursIn_filter (flag : Flag) (words : List Word) :
    occursIn flag (words.filter (·.flag = flag)) = occursIn flag words := by
  simp [occursIn, List.any_filter]

/-- Words that are the same for each flag say the same. -/
theorem SameForEachFlag.argumentsOf_eq {first second : List Word}
    (h : SameForEachFlag first second) : argumentsOf first = argumentsOf second := by
  have hvalues : ∀ flag, valuesFor flag first = valuesFor flag second := by
    intro flag
    rw [← valuesFor_filter flag first, h flag, valuesFor_filter]
  have hoccurs : ∀ flag, occursIn flag first = occursIn flag second := by
    intro flag
    rw [← occursIn_filter flag first, h flag, occursIn_filter]
  simp only [argumentsOf, hvalues, hoccurs]

/-- Words that are switches or carry their value are all taken, whatever the values look like: a flag
for one value has the last one, a flag for several has all of them in order, and a switch is on when
it occurs. When words change places, but not with words of their own flag, they are taken as the same
arguments, and the outcome is the same. -/
theorem words_are_taken_in_any_order [Platform] (words : List Word) :
    parse (words.map Word.text) = .ok (.run (argumentsOf words)) ∧
      ∀ others, SameForEachFlag words others →
        parse (others.map Word.text) = .ok (.run (argumentsOf words)) ∧
          ∀ read cwd, Settings.outcome read (argumentsOf others) cwd =
            Settings.outcome read (argumentsOf words) cwd := by
  refine ⟨parse_words words, fun others h => ?_⟩
  have hsame := h.argumentsOf_eq
  refine ⟨?_, fun read cwd => ?_⟩
  · rw [parse_words, hsame]
  · rw [hsame]

/-- Values that look like other flags, hold spaces and equals signs or are empty, in two orders. -/
theorem words_are_taken_in_any_order_hardValues :
    let given : Arguments := {
      input := some "b = c", pattern := some "-v", imports := some ["A", ""], verbose := true }
    let words : List Word := [.value .imports "A" rfl (by decide), .shortVerbose,
      .value .input "--output=x" rfl (by decide), .value .imports "" rfl (by decide),
      .value .pattern "-v" rfl (by decide), .value .input "b = c" rfl (by decide)]
    let others : List Word := [.value .input "--output=x" rfl (by decide),
      .value .input "b = c" rfl (by decide), .value .imports "A" rfl (by decide),
      .value .pattern "-v" rfl (by decide), .value .imports "" rfl (by decide), .shortVerbose]
    SameForEachFlag words others ∧
      parse ["--import=A", "-v", "--input=--output=x", "--import=", "--match=-v",
        "--input=b = c"] = .ok (.run given) ∧
      parse ["--input=--output=x", "--input=b = c", "--import=A", "--match=-v", "--import=",
        "-v"] = .ok (.run given) := by
  intro given words others
  have hsame : SameForEachFlag words others := by
    intro flag
    cases flag <;> rfl
  obtain ⟨hwords, hothers⟩ := words_are_taken_in_any_order words
  have hgiven : argumentsOf words = given := by decide
  rw [hgiven] at hwords hothers
  exact ⟨hsame, hwords, (hothers others hsame).1⟩

end HeaderEnum.CommandLine
