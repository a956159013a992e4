import HeaderEnum.Json.Parser
import Mathlib.Data.List.Infix
import Mathlib.Data.List.TakeWhile

/-!
# The limits of the reader of JSON texts

The reader crashes over a text only when it has reason to: the text holds a long run of digits, or it
opens more arrays and objects than may lie inside each other. Brackets are counted wherever they
stand, so a text within the limits is never too much, and a text beyond them may still be read. Each
reader leaves an end of the text that it is given; what is beyond a reader in that end is beyond it
in the whole.
-/

namespace HeaderEnum.Json

/-- A run of digits in a text is longer than what is read as a whole number. -/
def HoldsLongNumber (text : List Char) : Prop :=
  ∃ digits, digits <:+: text ∧ (∀ c ∈ digits, c.isDigit = true) ∧ digitLimit < digits.length

/-- A character opens an array or an object. -/
def isOpening (c : Char) : Bool := c == '[' || c == '\x7b'

/-- A text is too much for a reader with room for so many arrays and objects inside each other. -/
def IsBeyond (room : Nat) (text : List Char) : Prop :=
  HoldsLongNumber text ∨ room < text.countP isOpening

/-- A reader leaves an end of its text, and crashes only over a text that is too much. -/
inductive StaysIn {α : Type} (room : Nat) (text : List Char) : Read α → Prop
  /-- A value is read. -/
  | read {value : α} {rest : List Char} : rest <:+ text → StaysIn room text (.ok (value, rest))
  /-- A problem is found. -/
  | stopped {stop : Stop} : StaysIn room text (.error (.fault stop))
  /-- The text is too much. -/
  | beyond {cause : Crash} : IsBeyond room text → StaysIn room text (.error (.crash cause))

variable {α β : Type} {room : Nat} {text : List Char}

/-- What is too much at the end of a text is too much as a whole. -/
theorem IsBeyond.of_suffix {rest : List Char} (hs : rest <:+ text) (h : IsBeyond room rest) :
    IsBeyond room text := by
  rcases h with ⟨digits, hin, hall, hlong⟩ | hopen
  · exact .inl ⟨digits, hin.trans hs.isInfix, hall, hlong⟩
  · exact .inr (Nat.lt_of_lt_of_le hopen hs.sublist.countP_le)

/-- What is too much behind a bracket is too much with the bracket and room for it. -/
theorem IsBeyond.cons {c : Char} (hc : isOpening c = true) (h : IsBeyond room text) :
    IsBeyond (room + 1) (c :: text) := by
  rcases h with ⟨digits, hin, hall, hlong⟩ | hopen
  · exact .inl ⟨digits, hin.trans (List.suffix_cons c text).isInfix, hall, hlong⟩
  · refine .inr ?_
    rw [List.countP_cons_of_pos hc]
    exact Nat.succ_lt_succ hopen

/-- One bracket more and no room is too much. -/
theorem isBeyond_zero {c : Char} (hc : isOpening c = true) (text : List Char) :
    IsBeyond 0 (c :: text) := by
  refine .inr ?_
  rw [List.countP_cons_of_pos hc]
  exact Nat.succ_pos _

namespace StaysIn

/-- A reader of the end of a text is one of the text. -/
theorem of_suffix {rest : List Char} {result : Read α} (hs : rest <:+ text)
    (h : StaysIn room rest result) : StaysIn room text result := by
  cases h with
  | read hr => exact .read (hr.trans hs)
  | stopped => exact .stopped
  | beyond hb => exact .beyond (hb.of_suffix hs)

/-- Behind a bracket there is one less to open. -/
theorem cons {c : Char} {result : Read α} (hc : isOpening c = true)
    (h : StaysIn room text result) : StaysIn (room + 1) (c :: text) result := by
  cases h with
  | read hr => exact .read (hr.trans (List.suffix_cons c text))
  | stopped => exact .stopped
  | beyond hb => exact .beyond (hb.cons hc)

/-- What is made of the value does not matter. -/
theorem map {result : Read α} {change : α × List Char → β × List Char}
    (h : StaysIn room text result) (hrest : ∀ found, (change found).2 = found.2) :
    StaysIn room text (result.map change) := by
  cases h with
  | @read value rest hr =>
    have hkept := hrest (value, rest)
    rw [Except.map, ← Prod.eta (change (value, rest)), hkept]
    exact .read hr
  | stopped => exact .stopped
  | beyond hb => exact .beyond hb

/-- A reader that fails fails for what it is given. -/
theorem of_error {stop : Halt Stop} (h : StaysIn room text (.error stop : Read α)) :
    StaysIn room text (.error stop : Read β) := by
  cases h with
  | stopped => exact .stopped
  | beyond hb => exact .beyond hb

end StaysIn

/-- Blanks stand at the front. -/
theorem skipBlanks_suffix (text : List Char) : skipBlanks text <:+ text :=
  List.dropWhile_suffix _

/-- What follows the first character behind blanks is an end of the text. -/
theorem suffix_of_skipBlanks {c : Char} {rest : List Char} (h : skipBlanks text = c :: rest) :
    rest <:+ text :=
  (List.suffix_cons c rest).trans (h ▸ skipBlanks_suffix text)

/-! ## Texts and numbers -/

/-- The code units of a text are read from its front. -/
theorem staysIn_textUnits (opening text : List Char) :
    StaysIn room text (textUnits opening text) := by
  fun_induction textUnits opening text with
  | case1 => exact .stopped
  | case2 rest => exact .read (List.suffix_cons _ _)
  | case3 => exact .stopped
  | case4 a b c d next rest unit hu ih =>
    refine .of_suffix (List.suffix_append ['\\', 'u', a, b, c, d] (next :: rest)) (ih.map ?_)
    exact fun _ => rfl
  | case5 => exact .stopped
  | case6 => exact .stopped
  | case7 => exact .stopped
  | case8 c rest _ _ meant hm ih =>
    refine .of_suffix (List.suffix_append ['\\', c] rest) (ih.map ?_)
    exact fun _ => rfl
  | case9 => exact .stopped
  | case10 c rest _ _ _ _ _ _ ih =>
    refine .of_suffix (List.suffix_cons c rest) (ih.map ?_)
    exact fun _ => rfl

/-- A text is read from the front. -/
theorem staysIn_readText [Platform] (text : List Char) : StaysIn room text (readText text) := by
  refine .of_suffix (List.drop_suffix 1 text) ((staysIn_textUnits text (text.drop 1)).map ?_)
  exact fun _ => rfl

/-- The digits before the point are digits at the front. -/
theorem eq_append_of_wholeDigits? {digits rest : List Char}
    (h : wholeDigits? text = some (digits, rest)) :
    text = digits ++ rest ∧ ∀ c ∈ digits, c.isDigit = true := by
  unfold wholeDigits? at h
  split at h
  · cases h
    exact ⟨rfl, List.forall_mem_singleton.mpr rfl⟩
  · rename_i c front _
    split at h
    · rename_i hc
      cases h
      refine ⟨by rw [List.cons_append, List.takeWhile_append_dropWhile], ?_⟩
      intro d hd
      rcases List.mem_cons.mp hd with rfl | hd
      · exact hc
      · exact List.mem_takeWhile_imp hd
    · contradiction
  · contradiction

/-- A fraction stands at the front. -/
theorem suffix_of_fraction? {digits rest : List Char} (h : fraction? text = some (digits, rest)) :
    rest <:+ text := by
  unfold fraction? at h
  split at h
  · dsimp only at h
    split at h
    · contradiction
    · cases h
      exact (List.dropWhile_suffix _).trans (List.suffix_cons _ _)
  · contradiction

/-- The digits of an exponent stand at the front. -/
theorem suffix_of_exponentDigits? {negative : Bool} {value : Int} {rest : List Char}
    (h : exponentDigits? negative text = some (value, rest)) : rest <:+ text := by
  unfold exponentDigits? at h
  dsimp only at h
  split at h
  · contradiction
  · cases h
    exact List.dropWhile_suffix _

/-- An exponent stands at the front. -/
theorem suffix_of_exponent? {value : Int} {rest : List Char}
    (h : exponent? text = some (value, rest)) : rest <:+ text := by
  unfold exponent? at h
  split at h
  · split at h
    · split at h
      · exact (suffix_of_exponentDigits? h).trans (List.suffix_append [_, _] _)
      · exact (suffix_of_exponentDigits? h).trans (List.suffix_append [_, _] _)
      · exact (suffix_of_exponentDigits? h).trans (List.suffix_cons _ _)
    · contradiction
  · contradiction

/-- A whole number of digits in a text is read, or holds too many of them. -/
theorem staysIn_integer {digits rest : List Char} (negative : Bool) (hin : digits <:+: text)
    (hall : ∀ c ∈ digits, c.isDigit = true) (hrest : rest <:+ text) :
    StaysIn room text ((integer negative digits).map fun value => (value, rest)) := by
  unfold integer
  split
  · rename_i hlong
    exact .beyond (.inl ⟨digits, hin, hall, hlong⟩)
  · exact .read hrest

/-- A number without its sign is read from the front. -/
theorem staysIn_unsigned? {negative : Bool} {result : Read Value}
    (h : unsigned? negative text = some result) : StaysIn room text result := by
  unfold unsigned? at h
  cases hw : wholeDigits? text with
  | none =>
    rw [hw] at h
    contradiction
  | some found =>
    obtain ⟨whole, rest⟩ := found
    obtain ⟨rfl, hall⟩ := eq_append_of_wholeDigits? hw
    have hrest : rest <:+ whole ++ rest := List.suffix_append whole rest
    have hfraction : ((fraction? rest).getD ([], rest)).2 <:+ rest := by
      cases hf : fraction? rest with
      | none => exact List.suffix_rfl
      | some found => exact suffix_of_fraction? hf
    have hexponent : ∀ front, ((exponent? front).getD (0, front)).2 <:+ front := by
      intro front
      cases he : exponent? front with
      | none => exact List.suffix_rfl
      | some found => exact suffix_of_exponent? he
    rw [hw] at h
    simp only [Option.bind_eq_bind, Option.bind_some] at h
    split at h
    · cases h
      exact staysIn_integer negative (List.prefix_append whole rest).isInfix hall hrest
    · cases h
      exact .read (((hexponent _).trans hfraction).trans hrest)

/-- A number is read from the front. -/
theorem staysIn_number? {result : Read Value} (h : number? text = some result) :
    StaysIn room text result := by
  unfold number? at h
  split at h
  · exact (staysIn_unsigned? h).of_suffix (List.suffix_cons _ _)
  · exact staysIn_unsigned? h

/-- A word or a number is read from the front. -/
theorem staysIn_readScalar (text : List Char) : StaysIn room text (readScalar text) := by
  unfold readScalar
  split
  · exact .read (List.drop_suffix _ _)
  · cases hn : number? text with
    | none => exact .stopped
    | some result => exact staysIn_number? hn

/-! ## Arrays and objects -/

section

variable [Platform]

/-- The readers of values, items and members with some bound leave an end of their text and crash
only over a text that is too much. -/
structure ReadersStayIn (bound : Nat) : Prop where
  /-- A value. -/
  value : ∀ room text, StaysIn room text (readValue bound room text)
  /-- The items of an array. -/
  items : ∀ room earlier text, StaysIn room text (readItems bound room earlier text)
  /-- The members of an object. -/
  members : ∀ room earlier text, StaysIn room text (readMembers bound room earlier text)

variable {bound : Nat}

/-- A value with one step more stays in its text. -/
theorem ReadersStayIn.value_succ (h : ReadersStayIn bound) (room : Nat) (text : List Char) :
    StaysIn room text (readValue (bound + 1) room text) := by
  rw [readValue.eq_def]
  dsimp only
  split
  · refine (staysIn_readText _).map ?_
    exact fun _ => rfl
  · rename_i rest
    split
    · exact .beyond (isBeyond_zero rfl rest)
    · refine .cons rfl ?_
      split
      · rename_i hs
        exact .read (suffix_of_skipBlanks hs)
      · exact (h.members _ [] (skipBlanks rest)).of_suffix (skipBlanks_suffix rest)
  · rename_i rest
    split
    · exact .beyond (isBeyond_zero rfl rest)
    · refine .cons rfl ?_
      split
      · rename_i hs
        exact .read (suffix_of_skipBlanks hs)
      · exact (h.items _ [] (skipBlanks rest)).of_suffix (skipBlanks_suffix rest)
  · exact staysIn_readScalar text

/-- Items with one step more stay in their text. -/
theorem ReadersStayIn.items_succ (h : ReadersStayIn bound) (room : Nat) (earlier : List Value)
    (text : List Char) : StaysIn room text (readItems (bound + 1) room earlier text) := by
  have hvalue := h.value room text
  rw [readItems]
  cases hr : readValue bound room text with
  | error stop =>
    rw [hr] at hvalue
    exact hvalue.of_error
  | ok found =>
    rw [hr] at hvalue
    obtain @⟨value, rest, hrest⟩ := hvalue
    dsimp only
    split
    · rename_i hs
      exact .read ((suffix_of_skipBlanks hs).trans hrest)
    · rename_i others hs
      refine .of_suffix ((suffix_of_skipBlanks hs).trans hrest) ?_
      exact (h.items room _ (skipBlanks others)).of_suffix (skipBlanks_suffix others)
    · exact .stopped

/-- Members with one step more stay in their text. -/
theorem ReadersStayIn.members_succ (h : ReadersStayIn bound) (room : Nat)
    (earlier : List (String × Value)) (text : List Char) :
    StaysIn room text (readMembers (bound + 1) room earlier text) := by
  rw [readMembers.eq_def]
  dsimp only
  split
  · rename_i front
    have hname : StaysIn room ('"' :: front) (readText ('"' :: front)) := staysIn_readText _
    cases hr : readText ('"' :: front) with
    | error stop =>
      rw [hr] at hname
      exact hname.of_error
    | ok found =>
      rw [hr] at hname
      obtain @⟨name, rest, hrest⟩ := hname
      dsimp only
      split
      · rename_i others hs
        have hothers := (suffix_of_skipBlanks hs).trans hrest
        have hvalue := (h.value room (skipBlanks others)).of_suffix (skipBlanks_suffix others)
        refine .of_suffix hothers ?_
        cases hv : readValue bound room (skipBlanks others) with
        | error stop =>
          rw [hv] at hvalue
          exact hvalue.of_error
        | ok found =>
          rw [hv] at hvalue
          obtain @⟨value, after, hafter⟩ := hvalue
          dsimp only
          split
          · rename_i he
            exact .read ((suffix_of_skipBlanks he).trans hafter)
          · rename_i more he
            refine .of_suffix ((suffix_of_skipBlanks he).trans hafter) ?_
            exact (h.members room _ (skipBlanks more)).of_suffix (skipBlanks_suffix more)
          · exact .stopped
      · exact .stopped
  · exact .stopped

/-- Readers with any bound stay in their text. -/
theorem readersStayIn (bound : Nat) : ReadersStayIn bound := by
  induction bound with
  | zero =>
    refine ⟨fun _ _ => ?_, fun _ _ _ => ?_, fun _ _ _ => ?_⟩
    · rw [readValue]
      exact .stopped
    · rw [readItems]
      exact .stopped
    · rw [readMembers]
      exact .stopped
  | succ bound ih => exact ⟨ih.value_succ, ih.items_succ, ih.members_succ⟩

/-- The reader crashes only over a text with a long run of digits or with many brackets. -/
theorem isBeyond_of_parse {text : String} {cause : Crash} (h : parse text = .error (.crash cause)) :
    IsBeyond Platform.jsonDepth text.toList := by
  have hvalue := ((readersStayIn (2 * text.toList.length + 3)).value Platform.jsonDepth
    (skipBlanks text.toList)).of_suffix (skipBlanks_suffix text.toList)
  have hwhole : readWhole text.toList = .error (.crash cause) := by
    unfold parse at h
    split at h
    · cases h
    · cases h
    · rename_i other hr
      cases h
      exact hr
  unfold readWhole at hwhole
  split at hwhole
  · cases hwhole
  · split at hwhole
    · rename_i stop hs
      rw [hs, Except.error.inj hwhole] at hvalue
      cases hvalue with
      | beyond hb => exact hb
    · split at hwhole
      · cases hwhole
      · cases hwhole

end

end HeaderEnum.Json
