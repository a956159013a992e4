import HeaderEnum.Header.Scan
import HeaderEnum.Proofs.Letter.Ascii
import HeaderEnum.Proofs.Text.Cuts

/-!
# The grammar of definitions

A header is cut at line feeds and semicolons, and each segment defines a name or nothing. A segment
that defines a name is blanks, the keyword, one blank or more, the name and any rest; the name is a
maximal run of word characters and an ASCII identifier. The names that the scanner collects are
those of the segments in order. What follows a name on its segment is not described.
-/

namespace HeaderEnum.Header

/-- An ASCII identifier: a letter or an underscore, then letters, digits and underscores. -/
def IsAsciiIdentifier (name : List Char) : Prop :=
  ∃ c rest, name = c :: rest ∧ (c = '_' ∨ c.isAlpha = true) ∧
    ∀ d ∈ rest, Letter.isAsciiWord d = true

/-- A text does not go on with a word character. -/
def EndsWord (rest : List Char) : Prop := ∀ c ∈ rest.head?, Letter.isWord c = false

/-- A segment that defines a name, which the given rest follows. -/
def DefinesBefore (segment name rest : List Char) : Prop :=
  ∃ indent gap, segment = indent ++ keyword ++ gap ++ name ++ rest ∧
    (∀ c ∈ indent, isBlank c = true) ∧
    gap ≠ [] ∧ (∀ c ∈ gap, isBlank c = true) ∧
    (∀ c ∈ name, Letter.isWord c = true) ∧ EndsWord rest ∧ IsAsciiIdentifier name

/-- A segment that defines a name. -/
def Defines (segment name : List Char) : Prop := ∃ rest, DefinesBefore segment name rest

/-- The names that segments define, in order; a segment without a definition gives none. -/
inductive NamesOf : List (List Char) → List String → Prop
  | nil : NamesOf [] []
  | named {segment name : List Char} {others : List (List Char)} {names : List String} :
    Defines segment name → NamesOf others names →
      NamesOf (segment :: others) (String.ofList name :: names)
  | silent {segment : List Char} {others : List (List Char)} {names : List String} :
    (∀ name, ¬Defines segment name) → NamesOf others names → NamesOf (segment :: others) names

/-- A header with one line feed for each of its line ends. -/
def unified (header : String) : List Char :=
  Text.feedsForReturns (Text.dropReturnsBeforeFeeds header.toList)

/-- The segments of a header: its lines, cut at semicolons. -/
def segments (header : String) : List (List Char) :=
  ((unified header).splitOn '\n').flatMap (List.splitOn ';')

/-! ## The reader of one segment -/

/-- No blank is a word character. -/
theorem isWord_of_isBlank {c : Char} (h : isBlank c = true) : Letter.isWord c = false := by
  simp only [isBlank, Bool.or_eq_true, beq_iff_eq] at h
  rcases h with rfl | rfl <;> decide

/-- No word character is a blank. -/
theorem isBlank_of_isWord {c : Char} (h : Letter.isWord c = true) : isBlank c = false := by
  cases hb : isBlank c with
  | false => rfl
  | true =>
    rw [isWord_of_isBlank hb] at h
    contradiction

/-- A given beginning is dropped exactly when the text starts with it. -/
theorem dropExactly_eq_some_iff {beginning text rest : List Char} :
    dropExactly beginning text = some rest ↔ text = beginning ++ rest := by
  fun_induction dropExactly beginning text with
  | case1 text => simp
  | case2 c beginning => simp
  | case3 d beginning text ih => simp [ih]
  | case4 c beginning d text hc => simp [Ne.symm hc]

/-- All characters of an ASCII identifier are ASCII word characters. -/
theorem IsAsciiIdentifier.isAsciiWord {name : List Char} (h : IsAsciiIdentifier name) :
    ∀ c ∈ name, Letter.isAsciiWord c = true := by
  obtain ⟨c, rest, rfl, hc, hr⟩ := h
  intro d hd
  rcases List.mem_cons.mp hd with rfl | hd
  · rcases hc with rfl | hc
    · rfl
    · simp [Letter.isAsciiWord, Char.isAlphanum, hc]
  · exact hr d hd

/-- The word characters at the front of a text are those of its first word. -/
theorem takeWhile_isWord_append {name rest : List Char}
    (hw : ∀ c ∈ name, Letter.isWord c = true) (he : EndsWord rest) :
    (name ++ rest).takeWhile Letter.isWord = name := by
  rw [List.takeWhile_append_of_pos hw]
  cases rest with
  | nil => simp
  | cons c others => simp [he c rfl]

/-- The reader of identifiers finds exactly the maximal runs of word characters that are ASCII
identifiers. -/
theorem identifierAt?_eq_some_iff {text name : List Char} :
    identifierAt? text = some name ↔
      ∃ rest, text = name ++ rest ∧ EndsWord rest ∧ IsAsciiIdentifier name := by
  constructor
  · intro h
    have hs : text = text.takeWhile Letter.isWord ++ text.dropWhile Letter.isWord :=
      List.takeWhile_append_dropWhile.symm
    have he : EndsWord (text.dropWhile Letter.isWord) := by
      intro c hc
      have hd := List.head?_dropWhile_not Letter.isWord text
      rw [Option.mem_def.mp hc] at hd
      simpa using hd
    unfold identifierAt? at h
    cases hw : text.takeWhile Letter.isWord with
    | nil => simp [hw] at h
    | cons c rest =>
      simp only [hw, Option.ite_none_right_eq_some, Bool.and_eq_true, Bool.or_eq_true, beq_iff_eq,
        List.all_eq_true, Option.some.injEq] at h
      obtain ⟨⟨hc, hr⟩, rfl⟩ := h
      rw [hw] at hs
      exact ⟨_, hs, he, c, rest, rfl, hc, hr⟩
  · rintro ⟨rest, rfl, he, hn⟩
    have hw : (name ++ rest).takeWhile Letter.isWord = name :=
      takeWhile_isWord_append (fun c hc => Letter.isWord_of_isAsciiWord (hn.isAsciiWord c hc)) he
    obtain ⟨c, others, rfl, hc, hr⟩ := hn
    unfold identifierAt?
    simp only [hw]
    rw [if_pos]
    simpa [List.all_eq_true] using ⟨hc, hr⟩

/-- Blanks in front of a text that does not start with one are dropped. -/
theorem dropWhile_isBlank_append {blanks rest : List Char} (hb : ∀ c ∈ blanks, isBlank c = true)
    (hr : ∀ c ∈ rest.head?, isBlank c = false) : (blanks ++ rest).dropWhile isBlank = rest := by
  rw [List.dropWhile_append_of_pos hb]
  cases rest with
  | nil => rfl
  | cons c others => rw [List.dropWhile_cons, hr c rfl, if_neg Bool.false_ne_true]

/-- The name of a definition comes behind the blanks in front, the keyword and more blanks. -/
theorem DefinesBefore.behind_blanks {segment name rest : List Char}
    (h : DefinesBefore segment name rest) :
    ∃ blank more, segment.dropWhile isBlank = keyword ++ blank :: more ∧ isBlank blank = true ∧
      more.dropWhile isBlank = name ++ rest := by
  obtain ⟨indent, gap, rfl, hi, hg, hgb, hw, -, hn⟩ := h
  obtain ⟨blank, more, rfl⟩ := List.exists_cons_of_ne_nil hg
  refine ⟨blank, more ++ name ++ rest, ?_, hgb blank List.mem_cons_self, ?_⟩
  · have hk : ∀ c ∈ (keyword ++ blank :: (more ++ name ++ rest)).head?, isBlank c = false := by
      intro c hc
      obtain rfl : '#' = c := by simpa [keyword] using hc
      decide
    have hs := dropWhile_isBlank_append hi hk
    simpa only [List.append_assoc, List.cons_append] using hs
  · rw [List.append_assoc]
    refine dropWhile_isBlank_append (fun c hc => hgb c (List.mem_cons_of_mem _ hc)) ?_
    obtain ⟨c, others, rfl, -⟩ := hn
    intro d hd
    obtain rfl : c = d := by simpa using hd
    exact isBlank_of_isWord (hw c List.mem_cons_self)

/-- The reader finds exactly the definitions of the grammar. -/
theorem definedAt?_eq_some_iff {segment name : List Char} :
    definedAt? segment = some name ↔ Defines segment name := by
  constructor
  · intro h
    unfold definedAt? at h
    split at h
    · rename_i blank rest hd
      have hs : segment.dropWhile isBlank = keyword ++ blank :: rest :=
        dropExactly_eq_some_iff.mp hd
      obtain ⟨hb, hi⟩ := Option.ite_none_right_eq_some.mp h
      obtain ⟨tail, ht, he, hn⟩ := identifierAt?_eq_some_iff.mp hi
      refine ⟨tail, segment.takeWhile isBlank, blank :: rest.takeWhile isBlank, ?_, ?_, by simp, ?_,
        fun c hc => Letter.isWord_of_isAsciiWord (hn.isAsciiWord c hc), he, hn⟩
      · calc segment = segment.takeWhile isBlank ++ segment.dropWhile isBlank :=
              List.takeWhile_append_dropWhile.symm
          _ = segment.takeWhile isBlank ++ (keyword ++ blank ::
                (rest.takeWhile isBlank ++ rest.dropWhile isBlank)) := by
              rw [hs, List.takeWhile_append_dropWhile]
          _ = _ := by rw [ht]; simp
      · exact List.all_eq_true.mp List.all_takeWhile
      · intro c hc
        rcases List.mem_cons.mp hc with rfl | hc
        · exact hb
        · exact List.all_eq_true.mp List.all_takeWhile c hc
    · simp at h
  · rintro ⟨rest, h⟩
    obtain ⟨blank, more, hk, hb, hm⟩ := h.behind_blanks
    obtain ⟨-, -, -, -, -, -, -, he, hn⟩ := h
    unfold definedAt?
    rw [hk, dropExactly_eq_some_iff.mpr rfl]
    simp only [hb, if_true]
    exact identifierAt?_eq_some_iff.mpr ⟨rest, hm, he, hn⟩

/-! ## Where a segment ends -/

/-- No blank opens a definition. -/
theorem opensDefinition_of_isBlank {c : Char} (h : isBlank c = true) :
    opensDefinition c = false := by
  simp only [isBlank, Bool.or_eq_true, beq_iff_eq] at h
  rcases h with rfl | rfl <;> decide

/-- A character that opens a definition belongs to no word. -/
theorem isWord_of_opensDefinition {c : Char} (h : opensDefinition c = true) :
    Letter.isWord c = false := by
  simp only [opensDefinition, Bool.or_eq_true, beq_iff_eq] at h
  rcases h with rfl | rfl <;> decide

/-- A definition holds no character that opens another one, and stays a definition when something
else follows its name. -/
theorem DefinesBefore.front {segment name rest : List Char} (h : DefinesBefore segment name rest) :
    ∃ front, segment = front ++ rest ∧ front ≠ [] ∧ (∀ c ∈ front, opensDefinition c = false) ∧
      ∀ other, EndsWord other → DefinesBefore (front ++ other) name other := by
  obtain ⟨indent, gap, hs, hi, hg, hgb, hw, -, hn⟩ := h
  refine ⟨indent ++ keyword ++ gap ++ name, hs, by simp [keyword], ?_, ?_⟩
  · intro c hc
    have hk : keyword.all (fun d => !opensDefinition d) = true := by decide
    simp only [List.mem_append] at hc
    rcases hc with ((hc | hc) | hc) | hc
    · exact opensDefinition_of_isBlank (hi c hc)
    · simpa using List.all_eq_true.mp hk c hc
    · exact opensDefinition_of_isBlank (hgb c hc)
    · cases ho : opensDefinition c with
      | false => rfl
      | true =>
        have hn := hw c hc
        rw [isWord_of_opensDefinition ho] at hn
        exact absurd hn Bool.false_ne_true
  · intro other he
    exact ⟨indent, gap, rfl, hi, hg, hgb, hw, he, hn⟩

/-- A text that goes on with a character that opens a definition ends a word. -/
theorem endsWord_cons {c : Char} (hc : opensDefinition c = true) (more : List Char) :
    EndsWord (c :: more) := by
  intro d hd
  obtain rfl : c = d := by simpa using hd
  exact isWord_of_opensDefinition hc

/-- What follows on the segments after it does not change what a segment defines. -/
theorem defines_append_cons {segment name more : List Char} {c : Char}
    (hc : opensDefinition c = true) : Defines (segment ++ c :: more) name ↔ Defines segment name := by
  constructor
  · rintro ⟨rest, h⟩
    obtain ⟨-, -, -, -, -, -, -, he, -⟩ := id h
    obtain ⟨front, hs, -, ho, hf⟩ := h.front
    -- the character that opens the next segment lies behind the name
    rcases List.append_eq_append_iff.mp hs with ⟨tail, ht, hr⟩ | ⟨tail, ht, hr⟩
    · cases tail with
      | nil =>
        have hd := hf [] fun d hd => by simp at hd
        rw [List.append_nil] at ht hd
        exact ⟨[], ht ▸ hd⟩
      | cons d others =>
        obtain ⟨rfl, -⟩ := List.cons.inj hr
        have hn := ho c (by rw [ht]; simp)
        rw [hc] at hn
        contradiction
    · have hw : EndsWord tail := by
        intro d hd
        refine he d ?_
        rw [hr, List.head?_append, Option.mem_def.mp hd]
        rfl
      exact ⟨tail, ht ▸ hf tail hw⟩
  · rintro ⟨rest, h⟩
    obtain ⟨-, -, -, -, -, -, -, he, -⟩ := id h
    obtain ⟨front, rfl, -, -, hf⟩ := h.front
    have hw : EndsWord (rest ++ c :: more) := by
      cases rest with
      | nil => exact endsWord_cons hc more
      | cons first others => exact he
    exact ⟨rest ++ c :: more, by simpa using hf _ hw⟩

/-- The reader stops at the end of the first segment. -/
theorem definedAt?_append_cons (segment more : List Char) {c : Char}
    (hc : opensDefinition c = true) : definedAt? (segment ++ c :: more) = definedAt? segment := by
  apply Option.ext
  intro name
  rw [definedAt?_eq_some_iff, definedAt?_eq_some_iff, defines_append_cons hc]

/-- What a text defines at its front is what its first segment defines. -/
theorem definedAt?_eq_of_splitOnP {text first : List Char} {others : List (List Char)}
    (h : text.splitOnP opensDefinition = first :: others) : definedAt? text = definedAt? first := by
  let before := text.takeWhile fun c => !opensDefinition c
  have hb : ∀ c ∈ before, opensDefinition c = false := by
    intro c hc
    simpa using List.all_eq_true.mp List.all_takeWhile c hc
  have ht : text = before ++ text.dropWhile fun c => !opensDefinition c :=
    List.takeWhile_append_dropWhile.symm
  cases hd : text.dropWhile fun c => !opensDefinition c with
  | nil =>
    rw [hd, List.append_nil] at ht
    rw [ht, List.splitOnP_eq_singleton hb] at h
    rw [ht, (List.cons.inj h).1]
  | cons c more =>
    have hc : opensDefinition c = true := by
      have hn := List.head?_dropWhile_not (fun c => !opensDefinition c) text
      rw [hd] at hn
      simpa using hn
    rw [hd] at ht
    rw [ht, List.splitOnP_append_cons_of_forall_mem hb c hc] at h
    rw [ht, definedAt?_append_cons before more hc, (List.cons.inj h).1]

/-- The scanner reads one segment after the other; when no definition may begin at the front, the
first segment is passed over. -/
theorem occurrencesFrom_eq_filterMap (opened : Bool) (text : List Char) :
    occurrencesFrom opened text =
      (if opened then text.splitOnP opensDefinition
        else (text.splitOnP opensDefinition).tail).filterMap definedAt? := by
  induction text generalizing opened with
  | nil => cases opened <;> rfl
  | cons c rest ih =>
    obtain ⟨first, others, hs⟩ :=
      List.exists_cons_of_ne_nil (List.splitOnP_ne_nil opensDefinition rest)
    have hcons := List.splitOnP_cons_eq_if_modifyHead (p := opensDefinition) c rest
    rw [occurrencesFrom, ih, hcons, hs]
    rw [hs, List.modifyHead_cons] at hcons
    cases hc : opensDefinition c with
    | true =>
      have hd : definedAt? (c :: rest) = none := definedAt?_append_cons [] rest hc
      cases opened
      · rfl
      · simp only [hd, if_true, List.filterMap_cons_none (show definedAt? [] = none from rfl)]
    | false =>
      simp only [hc, Bool.false_eq_true, if_false] at hcons
      have hd : definedAt? (c :: rest) = definedAt? (c :: first) := definedAt?_eq_of_splitOnP hcons
      cases opened
      · rfl
      · simp only [hd, if_true, Bool.false_eq_true, if_false, List.modifyHead_cons,
          List.filterMap_cons, List.tail_cons]
        cases definedAt? (c :: first) <;> rfl

/-! ## The names of a header -/

/-- Cutting a header at line feeds and then at semicolons is cutting it where definitions open. -/
theorem segments_eq_splitOnP (header : String) :
    segments header = (Text.unifyLineEnds header.toList).splitOnP opensDefinition := by
  rw [segments, unified, ← Text.unifyLineEnds_eq_two_passes, List.splitOn_eq_splitOnP]
  exact (Text.splitOnP_or (· == '\n') (· == ';') _).symm

/-- The scanner's names are those that the reader finds in the segments. -/
theorem occurrences_eq_filterMap (header : String) :
    occurrences header = ((segments header).filterMap definedAt?).map String.ofList := by
  rw [occurrences, occurrencesFrom_eq_filterMap, if_pos rfl, segments_eq_splitOnP]

/-- The names that the reader finds are those of the grammar. -/
theorem namesOf_filterMap (parts : List (List Char)) :
    NamesOf parts ((parts.filterMap definedAt?).map String.ofList) := by
  induction parts with
  | nil => exact .nil
  | cons segment others ih =>
    cases hd : definedAt? segment with
    | none =>
      rw [List.filterMap_cons_none hd]
      refine .silent (fun name hn => ?_) ih
      rw [definedAt?_eq_some_iff.mpr hn] at hd
      contradiction
    | some name =>
      rw [List.filterMap_cons_some hd]
      exact .named (definedAt?_eq_some_iff.mp hd) ih

/-- The grammar gives segments one list of names only. -/
theorem NamesOf.unique {parts : List (List Char)} {first second : List String}
    (hf : NamesOf parts first) (hs : NamesOf parts second) : first = second := by
  induction hf generalizing second with
  | nil =>
    cases hs
    rfl
  | named hd _ ih =>
    cases hs with
    | named hd' hs =>
      have hn := (definedAt?_eq_some_iff.mpr hd).symm.trans (definedAt?_eq_some_iff.mpr hd')
      rw [Option.some.inj hn, ih hs]
    | silent hd' _ => exact absurd hd (hd' _)
  | silent hd _ ih =>
    cases hs with
    | named hd' _ => exact absurd hd' (hd _)
    | silent _ hs => exact ih hs

end HeaderEnum.Header
