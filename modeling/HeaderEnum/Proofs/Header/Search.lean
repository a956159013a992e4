import HeaderEnum.Proofs.Header.Grammar

/-!
# Searching a header from the left

The names of a header as a search finds them. A match is a definition that begins where a line
starts or behind a semicolon; the search tries every position from left to right and goes on behind
each match. It never steps over a place where another definition begins, so it finds the names that
the scanner collects segment by segment.
-/

namespace HeaderEnum.Header

/-- A match at the front of a text, and what is left behind it. -/
def Matches (lineStart : Bool) (text name rest : List Char) : Prop :=
  lineStart = true ∧ DefinesBefore text name rest ∨
    ∃ more, text = ';' :: more ∧ DefinesBefore more name rest

/-- The names that a search finds, given whether the text begins where a line starts. -/
inductive Found : Bool → List Char → List String → Prop
  | done {lineStart : Bool} : Found lineStart [] []
  | hit {lineStart : Bool} {text name rest : List Char} {names : List String} :
    Matches lineStart text name rest → Found false rest names →
      Found lineStart text (String.ofList name :: names)
  | skip {lineStart : Bool} {c : Char} {text : List Char} {names : List String} :
    (∀ name rest, ¬Matches lineStart (c :: text) name rest) → Found (c == '\n') text names →
      Found lineStart (c :: text) names

/-- A definition at the front of a text is there in one way only. -/
theorem DefinesBefore.unique {text name name' rest rest' : List Char}
    (h : DefinesBefore text name rest) (h' : DefinesBefore text name' rest') :
    name = name' ∧ rest = rest' := by
  obtain ⟨blank, more, hk, -, hm⟩ := h.behind_blanks
  obtain ⟨blank', more', hk', -, hm'⟩ := h'.behind_blanks
  obtain ⟨-, -, -, -, -, -, hw, he, -⟩ := h
  obtain ⟨-, -, -, -, -, -, hw', he', -⟩ := h'
  have hmore : more = more' := by
    rw [hk, List.append_cancel_left_eq] at hk'
    exact (List.cons.inj hk').2
  have hs : name ++ rest = name' ++ rest' := by rw [← hm, ← hm', hmore]
  have hn : name = name' := by
    rw [← takeWhile_isWord_append hw he, hs, takeWhile_isWord_append hw' he']
  subst hn
  exact ⟨rfl, List.append_cancel_left hs⟩

/-- No definition begins with a semicolon. -/
theorem not_definesBefore_semicolon {more name rest : List Char} :
    ¬DefinesBefore (';' :: more) name rest := by
  intro h
  obtain ⟨front, hs, hne, ho, -⟩ := h.front
  obtain ⟨c, others, rfl⟩ := List.exists_cons_of_ne_nil hne
  obtain ⟨rfl, -⟩ := List.cons.inj hs
  exact absurd (ho ';' List.mem_cons_self) (by decide)

/-- A text is matched in one way only. -/
theorem Matches.unique {lineStart : Bool} {text name name' rest rest' : List Char}
    (h : Matches lineStart text name rest) (h' : Matches lineStart text name' rest') :
    name = name' ∧ rest = rest' := by
  rcases h with ⟨-, h⟩ | ⟨more, rfl, h⟩
  · rcases h' with ⟨-, h'⟩ | ⟨more, rfl, h'⟩
    · exact h.unique h'
    · exact absurd h not_definesBefore_semicolon
  · rcases h' with ⟨-, h'⟩ | ⟨more', hs, h'⟩
    · exact absurd h' not_definesBefore_semicolon
    · obtain ⟨-, rfl⟩ := List.cons.inj hs
      exact h.unique h'

/-- A search finds one list of names. -/
theorem Found.unique {lineStart : Bool} {text : List Char} {first second : List String}
    (hf : Found lineStart text first) (hs : Found lineStart text second) : first = second := by
  induction hf generalizing second with
  | done =>
    cases hs with
    | done => rfl
    | hit hm _ =>
      rcases hm with ⟨-, h⟩ | ⟨more, h, -⟩
      · obtain ⟨front, hn, hne, -, -⟩ := h.front
        exact absurd (List.append_eq_nil_iff.mp hn.symm).1 hne
      · exact absurd h (by simp)
  | hit hm _ ih =>
    cases hs with
    | done =>
      rcases hm with ⟨-, h⟩ | ⟨more, h, -⟩
      · obtain ⟨front, hn, hne, -, -⟩ := h.front
        exact absurd (List.append_eq_nil_iff.mp hn.symm).1 hne
      · exact absurd h (by simp)
    | hit hm' hs =>
      obtain ⟨rfl, rfl⟩ := hm.unique hm'
      rw [ih hs]
    | skip hno _ => exact absurd hm (hno _ _)
  | skip hno _ ih =>
    cases hs with
    | hit hm' _ => exact absurd hm' (hno _ _)
    | skip _ hs => exact ih hs

/-- Characters that open no definition are passed over. -/
theorem occurrencesFrom_append {front : List Char} (ho : ∀ c ∈ front, opensDefinition c = false)
    (rest : List Char) : occurrencesFrom false (front ++ rest) = occurrencesFrom false rest := by
  induction front with
  | nil => rfl
  | cons c others ih =>
    rw [List.cons_append, occurrencesFrom, ho c List.mem_cons_self,
      ih fun d hd => ho d (List.mem_cons_of_mem _ hd)]
    rfl

/-- Where nothing is defined it does not matter whether a definition may begin. -/
theorem occurrencesFrom_of_none {text : List Char} (h : definedAt? text = none) (opened : Bool) :
    occurrencesFrom opened text = occurrencesFrom false text := by
  cases text with
  | nil => cases opened <;> rfl
  | cons c rest => cases opened <;> simp [occurrencesFrom, h]

/-- The scanner reads a definition and goes on behind it. -/
theorem occurrencesFrom_of_definesBefore {text name rest : List Char}
    (h : DefinesBefore text name rest) :
    occurrencesFrom true text = name :: occurrencesFrom false rest := by
  have hd : definedAt? text = some name := definedAt?_eq_some_iff.mpr ⟨rest, h⟩
  obtain ⟨front, rfl, hne, ho, -⟩ := h.front
  obtain ⟨c, others, rfl⟩ := List.exists_cons_of_ne_nil hne
  have hrest : occurrencesFrom false (others ++ rest) = occurrencesFrom false rest :=
    occurrencesFrom_append (fun d hd => ho d (List.mem_cons_of_mem _ hd)) rest
  rw [List.cons_append] at hd ⊢
  rw [occurrencesFrom, hd, ho c List.mem_cons_self, hrest]
  rfl

/-- The scanner reads a match and goes on behind it. -/
theorem occurrencesFrom_of_matches {lineStart : Bool} {text name rest : List Char}
    (h : Matches lineStart text name rest) :
    occurrencesFrom lineStart text = name :: occurrencesFrom false rest := by
  rcases h with ⟨rfl, h⟩ | ⟨more, rfl, h⟩
  · exact occurrencesFrom_of_definesBefore h
  · have hn : definedAt? (';' :: more) = none := definedAt?_append_cons [] more (by decide)
    rw [occurrencesFrom_of_none hn, ← occurrencesFrom_of_definesBefore h]
    rfl

/-- Where nothing matches the scanner goes on with the next character. -/
theorem occurrencesFrom_of_not_matches {lineStart : Bool} {c : Char} {text : List Char}
    (h : ∀ name rest, ¬Matches lineStart (c :: text) name rest) :
    occurrencesFrom lineStart (c :: text) = occurrencesFrom (c == '\n') text := by
  have hfirst : occurrencesFrom lineStart (c :: text) = occurrencesFrom (opensDefinition c) text := by
    cases lineStart with
    | false => rfl
    | true =>
      cases hd : definedAt? (c :: text) with
      | none => simp [occurrencesFrom, hd]
      | some name =>
        obtain ⟨rest, hb⟩ := definedAt?_eq_some_iff.mp hd
        exact absurd (.inl ⟨rfl, hb⟩) (h name rest)
  rw [hfirst]
  by_cases hc : c = ';'
  · subst hc
    have hn : definedAt? text = none := by
      cases hd : definedAt? text with
      | none => rfl
      | some name =>
        obtain ⟨rest, hb⟩ := definedAt?_eq_some_iff.mp hd
        exact absurd (.inr ⟨text, rfl, hb⟩) (h name rest)
    exact (occurrencesFrom_of_none hn _).trans (occurrencesFrom_of_none hn _).symm
  · have ho : opensDefinition c = (c == '\n') := by
      rw [opensDefinition, beq_eq_false_iff_ne.mpr hc, Bool.or_false]
    rw [ho]

/-- What is left behind a match is shorter than the text. -/
theorem Matches.length_lt {lineStart : Bool} {text name rest : List Char}
    (h : Matches lineStart text name rest) : rest.length < text.length := by
  have hb : ∀ {part : List Char}, DefinesBefore part name rest → rest.length < part.length := by
    intro part hp
    obtain ⟨front, rfl, hne, -, -⟩ := hp.front
    have hl : 0 < front.length := List.length_pos_iff.mpr hne
    rw [List.length_append]
    omega
  rcases h with ⟨-, h⟩ | ⟨more, rfl, h⟩
  · exact hb h
  · have hm := hb h
    rw [List.length_cons]
    omega

/-- The scanner collects what a search finds. -/
theorem found_occurrencesFrom (lineStart : Bool) (text : List Char) :
    Found lineStart text ((occurrencesFrom lineStart text).map String.ofList) := by
  cases text with
  | nil => exact .done
  | cons c rest =>
    by_cases hm : ∃ name behind, Matches lineStart (c :: rest) name behind
    · obtain ⟨name, behind, hm⟩ := hm
      have hlt := hm.length_lt
      rw [occurrencesFrom_of_matches hm]
      exact .hit hm (found_occurrencesFrom false behind)
    · have hno : ∀ name behind, ¬Matches lineStart (c :: rest) name behind :=
        fun name behind h => hm ⟨name, behind, h⟩
      rw [occurrencesFrom_of_not_matches hno]
      exact .skip hno (found_occurrencesFrom (c == '\n') rest)
termination_by text.length
decreasing_by
  · exact hlt
  · exact Nat.lt_succ_self rest.length

/-- Searching a header finds the names of its segments. -/
theorem found_occurrences (header : String) :
    Found true (unified header) (occurrences header) := by
  rw [unified, ← Text.unifyLineEnds_eq_two_passes]
  exact found_occurrencesFrom true _

end HeaderEnum.Header
