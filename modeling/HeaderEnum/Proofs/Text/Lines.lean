import HeaderEnum.Text.Split
import Mathlib.Data.List.Basic

/-!
# Lines and what stands between known texts

A text made of lines is cut at its line feeds into the same lines, as long as none of them holds a
line feed. A line made of a known beginning, a name and a known end gives the name back, and no
other line gives that name.
-/

namespace HeaderEnum.Text

/-- The lines of a text, which its line feeds part. -/
def lines (text : String) : List String := (pieces (· == '\n') text.toList).map String.ofList

/-- A text that stands on one line. -/
def OnOneLine (text : String) : Prop := '\n' ∉ text.toList

instance : DecidablePred OnOneLine := fun text => inferInstanceAs (Decidable ('\n' ∉ text.toList))

/-- Two texts stand on one line together exactly when each of them does. -/
@[simp] theorem onOneLine_append {first second : String} :
    OnOneLine (first ++ second) ↔ OnOneLine first ∧ OnOneLine second := by
  rw [OnOneLine, String.toList_append, List.mem_append, not_or]
  rfl

/-- The lines of two texts with a line feed between them are those of both. -/
theorem lines_append (first second : String) :
    lines (first ++ "\n" ++ second) = lines first ++ lines second := by
  have htext : (first ++ "\n" ++ second).toList = first.toList ++ '\n' :: second.toList := by
    simp
  rw [lines, htext, pieces_append_cons first.toList second.toList (by decide), List.map_append]
  rfl

/-- A text on one line is its only line. -/
theorem lines_of_onOneLine {text : String} (h : OnOneLine text) : lines text = [text] := by
  have hcut : ∀ c ∈ text.toList, (c == '\n') = false := by
    intro c hc
    rw [beq_eq_false_iff_ne]
    rintro rfl
    exact h hc
  rw [lines, pieces_of_forall hcut, List.map_singleton, String.ofList_toList]

/-- Lines after the first one are written below it. -/
theorem joinLines_cons {line : String} {rest : List String} (h : rest ≠ []) :
    joinLines (line :: rest) = line ++ "\n" ++ joinLines rest := by
  cases rest with
  | nil => exact absurd rfl h
  | cons second others => rfl

/-- Two groups of lines are written one below the other. -/
theorem joinLines_append {first second : List String} (hf : first ≠ []) (hs : second ≠ []) :
    joinLines (first ++ second) = joinLines first ++ "\n" ++ joinLines second := by
  induction first with
  | nil => exact absurd rfl hf
  | cons line rest ih =>
    by_cases hr : rest = []
    · subst hr
      exact joinLines_cons hs
    · have hne : rest ++ second ≠ [] := List.append_ne_nil_of_left_ne_nil hr second
      rw [List.cons_append, joinLines_cons hne, joinLines_cons hr, ih hr]
      simp only [String.append_assoc]

/-- Lines that are joined beforehand are the same as lines of their own. -/
theorem joinLines_joinLines (first : List String) {middle last : List String} (hm : middle ≠ [])
    (hl : last ≠ []) :
    joinLines (first ++ joinLines middle :: last) = joinLines (first ++ middle ++ last) := by
  have hmiddle : joinLines (joinLines middle :: last) = joinLines (middle ++ last) := by
    rw [joinLines_cons hl, joinLines_append hm hl]
  by_cases hf : first = []
  · subst hf
    exact hmiddle
  · have hml : middle ++ last ≠ [] := List.append_ne_nil_of_left_ne_nil hm last
    rw [joinLines_append hf (List.cons_ne_nil _ _), hmiddle, List.append_assoc,
      joinLines_append hf hml]

/-- Joined lines are cut into themselves. -/
theorem lines_joinLines {all : List String} (hne : all ≠ []) (h : ∀ line ∈ all, OnOneLine line) :
    lines (joinLines all) = all := by
  induction all with
  | nil => exact absurd rfl hne
  | cons line rest ih =>
    have hline : lines line = [line] := lines_of_onOneLine (h line List.mem_cons_self)
    by_cases hr : rest = []
    · subst hr
      exact hline
    · have hrest := ih hr fun other hm => h other (List.mem_cons_of_mem line hm)
      rw [joinLines_cons hr, lines_append, hline, hrest]
      rfl

/-! ## Between two known texts -/

/-- What a text holds between a known beginning and a known end. -/
def between? (start finish text : String) : Option String := do
  let rest ← text.toList.dropPrefix? start.toList
  let name ← rest.dropSuffix? finish.toList
  return String.ofList name

/-- A text gives what it holds between its beginning and its end. -/
theorem between?_eq_some_iff {start finish text name : String} :
    between? start finish text = some name ↔ text = start ++ name ++ finish := by
  simp only [between?, Option.pure_def, Option.bind_eq_bind, Option.bind_eq_some_iff,
    List.dropPrefix?_eq_some_iff, List.dropSuffix?_eq_some_iff, beq_iff_eq, Option.some.injEq]
  rw [← String.toList_inj, String.toList_append, String.toList_append, List.append_assoc]
  constructor
  · rintro ⟨rest, ⟨_, htext, rfl⟩, name, ⟨_, rfl, rfl⟩, rfl⟩
    rw [htext, String.toList_ofList]
  · intro htext
    exact ⟨_, ⟨_, htext, rfl⟩, name.toList, ⟨_, rfl, rfl⟩, String.ofList_toList⟩

/-- The lines below a known head. -/
def linesBelow? (head : List String) (text : String) : Option (List String) :=
  (between? (joinLines head ++ "\n") "" text).map lines

/-- Below its head a text has the lines that were written there, whatever the head holds. -/
theorem linesBelow?_joinLines {head body : List String} (hh : head ≠ []) (hb : body ≠ [])
    (h : ∀ line ∈ body, OnOneLine line) :
    linesBelow? head (joinLines (head ++ body)) = some body := by
  have hbetween : between? (joinLines head ++ "\n") "" (joinLines (head ++ body)) =
      some (joinLines body) := by
    rw [between?_eq_some_iff, joinLines_append hh hb, String.append_empty]
  rw [linesBelow?, hbetween, Option.map_some, lines_joinLines hb h]

/-- A text is the beginning of what is written with more after it. -/
theorem toList_prefix_append (first rest : String) : first.toList <+: (first ++ rest).toList :=
  ⟨rest.toList, String.toList_append.symm⟩

/-- A line that begins like a text which differs from the known beginning early enough holds
nothing. -/
theorem between?_append_of_not_prefix {start finish first rest : String}
    (hs : ¬start.toList <+: first.toList) (hf : ¬first.toList <+: start.toList) :
    between? start finish (first ++ rest) = none := by
  rw [Option.eq_none_iff_forall_ne_some]
  intro name h
  have htext := between?_eq_some_iff.mp h
  have hstart : start.toList <+: (first ++ rest).toList := by
    rw [htext, String.append_assoc]
    exact toList_prefix_append _ _
  have hfirst : first.toList <+: (first ++ rest).toList := toList_prefix_append first rest
  rcases List.prefix_or_prefix_of_prefix hstart hfirst with hp | hp
  · exact hs hp
  · exact hf hp

/-! ## Reading lines one after another -/

/-- Known lines leave the lines after them. -/
theorem dropPrefix?_append (known rest : List String) :
    (known ++ rest).dropPrefix? known = some rest :=
  List.dropPrefix?_append_of_beq rest (beq_self_eq_true known)

/-- What stands on the first lines, one line each, and the lines from the first other one on. -/
def readEach {α : Type} (read : String → Option α) : List String → List α × List String
  | [] => ([], [])
  | line :: rest =>
    match read line with
    | some item => (item :: (readEach read rest).1, (readEach read rest).2)
    | none => ([], line :: rest)

/-- What stands on the first pairs of lines, and the lines from the first other pair on. -/
def readPairs (upper lower : String → Option String) :
    List String → List (String × String) × List String
  | first :: second :: rest =>
    match upper first, lower second with
    | some a, some b => ((a, b) :: (readPairs upper lower rest).1, (readPairs upper lower rest).2)
    | _, _ => ([], first :: second :: rest)
  | others => ([], others)

/-- Written items are read up to a line that is none. -/
theorem readEach_append {α β : Type} {read : String → Option α} {write : β → String} {item : β → α}
    (h : ∀ value, read (write value) = some (item value)) {stop : String} (hs : read stop = none)
    (values : List β) (rest : List String) :
    readEach read (values.map write ++ stop :: rest) = (values.map item, stop :: rest) := by
  induction values with
  | nil => simp only [List.map_nil, List.nil_append, readEach, hs]
  | cons value others ih => simp only [List.map_cons, List.cons_append, readEach, h value, ih]

/-- Written pairs are read up to a line that begins none. -/
theorem readPairs_append {β : Type} {upper lower : String → Option String}
    {first second a b : β → String} (hu : ∀ value, upper (first value) = some (a value))
    (hl : ∀ value, lower (second value) = some (b value)) {stop : String} (hs : upper stop = none)
    (values : List β) (rest : List String) :
    readPairs upper lower
        ((values.flatMap fun value => [first value, second value]) ++ stop :: rest) =
      (values.map fun value => (a value, b value), stop :: rest) := by
  induction values with
  | nil =>
    rw [List.flatMap_nil, List.nil_append, List.map_nil]
    cases rest with
    | nil => rfl
    | cons other others => simp only [readPairs, hs]
  | cons value others ih =>
    simp only [List.flatMap_cons, List.cons_append, List.nil_append, List.map_cons, readPairs,
      hu value, hl value, ih]

end HeaderEnum.Text
