import HeaderEnum.Disk.TextFile
import HeaderEnum.Generation
import HeaderEnum.Proofs.Header.Grammar
import HeaderEnum.Proofs.Text.Lines

/-!
# Line ends of a header

A header may as well be cut at carriage returns as at line feeds: unifying its line ends takes away
no more than empty segments, and an empty segment defines nothing. So a line end of any kind parts
the names before it from those behind it, and what a header defines does not depend on how its lines
end, be it in memory or in a file. The lines themselves may hold line ends, which then part them too.
-/

namespace HeaderEnum.Header

/-- How a line may end. -/
inductive LineEnd where
  /-- With a line feed. -/
  | feed
  /-- With a carriage return. -/
  | carriage
  /-- With a carriage return and a line feed. -/
  | both
  deriving DecidableEq, Repr

/-- The characters of a line end. -/
def LineEnd.text : LineEnd → String
  | .feed => "\n"
  | .carriage => "\r"
  | .both => "\r\n"

/-- Lines one after another, each with an end of its own. -/
def terminated : List (String × LineEnd) → String
  | [] => ""
  | (line, lineEnd) :: others => line ++ lineEnd.text ++ terminated others

/-- A segment ends at this character, whatever the line ends. -/
def endsSegment (c : Char) : Bool := opensDefinition c || c == '\r'

/-! ## Segments under any line ends -/

/-- Unifying line ends leaves the first segment as it is, and of the others those that define
something. -/
theorem splitOnP_unifyLineEnds (text : List Char) :
    ∃ first others more,
      (Text.unifyLineEnds text).splitOnP opensDefinition = first :: others ∧
        text.splitOnP endsSegment = first :: more ∧
          others.filterMap definedAt? = more.filterMap definedAt? := by
  fun_induction Text.unifyLineEnds text with
  | case1 => exact ⟨[], [], [], rfl, rfl, rfl⟩
  | case2 rest ih =>
    -- the two characters of this line end have an empty segment between them
    obtain ⟨first, others, more, hu, ht, hd⟩ := ih
    have hempty : definedAt? [] = none := rfl
    refine ⟨[], first :: others, [] :: first :: more, ?_, ?_, ?_⟩
    · rw [List.splitOnP_cons_eq_if_modifyHead, if_pos (by decide), hu]
    · rw [List.splitOnP_cons_eq_if_modifyHead, if_pos (by decide),
        List.splitOnP_cons_eq_if_modifyHead, if_pos (by decide), ht]
    · simp only [List.filterMap_cons, hempty, hd]
  | case3 rest _ ih =>
    obtain ⟨first, others, more, hu, ht, hd⟩ := ih
    refine ⟨[], first :: others, first :: more, ?_, ?_, ?_⟩
    · rw [List.splitOnP_cons_eq_if_modifyHead, if_pos (by decide), hu]
    · rw [List.splitOnP_cons_eq_if_modifyHead, if_pos (by decide), ht]
    · simp only [List.filterMap_cons, hd]
  | case4 c rest _ hc ih =>
    obtain ⟨first, others, more, hu, ht, hd⟩ := ih
    have hends : endsSegment c = opensDefinition c := by
      rw [endsSegment, beq_eq_false_iff_ne.mpr hc, Bool.or_false]
    rw [List.splitOnP_cons_eq_if_modifyHead, List.splitOnP_cons_eq_if_modifyHead, hu, ht, hends]
    cases opensDefinition c with
    | true =>
      have hall : (first :: others).filterMap definedAt? = (first :: more).filterMap definedAt? := by
        simp only [List.filterMap_cons, hd]
      exact ⟨[], first :: others, first :: more, rfl, rfl, hall⟩
    | false => exact ⟨c :: first, others, more, rfl, rfl, hd⟩

/-- The names of a header are those of its segments, cut at line ends of any kind. -/
theorem occurrences_eq_splitOnP (header : String) :
    occurrences header =
      ((header.toList.splitOnP endsSegment).filterMap definedAt?).map String.ofList := by
  obtain ⟨first, others, more, hu, ht, hd⟩ := splitOnP_unifyLineEnds header.toList
  rw [occurrences_eq_filterMap, segments_eq_splitOnP, hu, ht, List.filterMap_cons,
    List.filterMap_cons, hd]

/-- Where a segment ends, the names of a header are those before it and then those behind it. -/
theorem occurrences_of_split {header first second : String} {c : Char} (hc : endsSegment c = true)
    (h : header.toList = first.toList ++ c :: second.toList) :
    occurrences header = occurrences first ++ occurrences second := by
  rw [occurrences_eq_splitOnP, h, List.splitOnP_append_cons _ _ hc, List.filterMap_append,
    List.map_append, ← occurrences_eq_splitOnP, ← occurrences_eq_splitOnP]

/-! ## Headers made of lines -/

/-- A line end of any kind parts the names before it from those behind it. -/
theorem occurrences_append_lineEnd (first : String) (lineEnd : LineEnd) (second : String) :
    occurrences (first ++ lineEnd.text ++ second) = occurrences first ++ occurrences second := by
  cases lineEnd with
  | feed =>
    have hc : endsSegment '\n' = true := by decide
    exact occurrences_of_split hc (by simp [LineEnd.text])
  | carriage =>
    have hc : endsSegment '\r' = true := by decide
    exact occurrences_of_split hc (by simp [LineEnd.text])
  | both =>
    have hreturn : endsSegment '\r' = true := by decide
    have hfeed : endsSegment '\n' = true := by decide
    have hline : occurrences ("\n" ++ second) = occurrences "" ++ occurrences second :=
      occurrences_of_split hfeed (by simp)
    have hempty : occurrences "" = [] := rfl
    rw [hempty, List.nil_append] at hline
    rw [← hline]
    exact occurrences_of_split hreturn (by simp [LineEnd.text])

/-- Lines with ends of any kind define what each of them defines. -/
theorem occurrences_terminated (lines : List (String × LineEnd)) :
    occurrences (terminated lines) = (lines.map Prod.fst).flatMap occurrences := by
  induction lines with
  | nil => rfl
  | cons line others ih =>
    rw [terminated, occurrences_append_lineEnd, ih, List.map_cons, List.flatMap_cons]

/-- Joined lines define what each of them defines. -/
theorem occurrences_joinLines (lines : List String) :
    occurrences (Text.joinLines lines) = lines.flatMap occurrences := by
  induction lines with
  | nil => rfl
  | cons line others ih =>
    by_cases ho : others = []
    · subst ho
      rw [List.flatMap_singleton]
      rfl
    · rw [Text.joinLines_cons ho, List.flatMap_cons, ← ih]
      exact occurrences_append_lineEnd line .feed (Text.joinLines others)

/-! ## Headers in files -/

/-- A text with unified line ends has the constants and the repeated names of the text. -/
theorem scan_withLineFeeds (text : String) : scan (Text.withLineFeeds text) = scan text := by
  have hunified : Text.unifyLineEnds (Text.withLineFeeds text).toList =
      Text.unifyLineEnds text.toList := by
    rw [Text.withLineFeeds, String.toList_ofList]
    exact Text.unifyLineEnds_of_not_mem (Text.not_mem_unifyLineEnds text.toList)
  rw [scan, scan, occurrences, occurrences, hunified]

/-- What is generated from a header depends on its constants and its repeated names alone. -/
theorem generate_of_scan {first second : String} (h : scan first = scan second)
    (rules : Naming.Rules) (words : Naming.ReservedWords) (layout : Swift.Layout) :
    generate rules words layout first = generate rules words layout second := by
  have hentries : rules.entriesOf words first = rules.entriesOf words second := by
    simp only [Naming.Rules.entriesOf, h]
  rw [generate, generate, hentries]

/-- The bytes of a text are read as the text with its line ends unified. -/
theorem textOfBytes_toUTF8 (text : String) :
    Disk.textOfBytes text.toUTF8 = .ok (Text.withLineFeeds text) := by
  have hdecoded : String.fromUTF8? text.toUTF8 = some text := dif_pos text.isValidUTF8
  simp only [Disk.textOfBytes, Text.decodeUtf8, hdecoded]

/-- How lines end does not matter. In memory, the same lines have the same constants and the same
repeated names under any choice of line ends; on a disk, a file that holds a text gives the same
generation, be it entries, warnings and a file or a fault with its warnings, as the text itself. -/
theorem lineEnds_do_not_matter [Platform] :
    (∀ first second : List (String × LineEnd), first.map Prod.fst = second.map Prod.fst →
      scan (terminated first) = scan (terminated second)) ∧
    ∀ (tree : Disk.Tree) (cwd : Disk.Place) (path : Path) (text : String),
      tree.read cwd path = .ok text.toUTF8 →
        ∃ header, Disk.textOfRead (tree.read cwd path) = .ok header ∧
          ∀ (rules : Naming.Rules) (words : Naming.ReservedWords) (layout : Swift.Layout),
            generate rules words layout header = generate rules words layout text := by
  constructor
  · intro first second h
    rw [scan, scan, occurrences_terminated, occurrences_terminated, h]
  · intro tree cwd path text h
    refine ⟨Text.withLineFeeds text, ?_, generate_of_scan (scan_withLineFeeds text)⟩
    rw [h, Disk.textOfRead, textOfBytes_toUTF8]
    rfl

/-- Three lines, of which the second is empty, end in three ways, so that one line end less is left;
and a file ends its lines in two ways. -/
theorem lineEnds_do_not_matter_mixed :
    let mixed : List (String × LineEnd) :=
      [("#define A 1", .carriage), ("", .feed), (";#define B;#define A", .both)]
    let plain := mixed.map fun line => (line.1, LineEnd.feed)
    let text := "#define kA\r\r\n#define k_A"
    let tree : Disk.Tree := ⟨[(["a.h"], .file text.toUTF8)]⟩
    (mixed.map Prod.fst = plain.map Prod.fst ∧ scan (terminated mixed) = scan (terminated plain)) ∧
      tree.read [] ⟨.absolute, ["a.h"]⟩ = .ok text.toUTF8 ∧
        ∃ header, Disk.textOfRead (tree.read [] ⟨.absolute, ["a.h"]⟩) = .ok header ∧
          ∀ (rules : Naming.Rules) (words : Naming.ReservedWords) (layout : Swift.Layout),
            generate rules words layout header = generate rules words layout text := by
  intro mixed plain text tree
  obtain ⟨hlines, hfile⟩ := lineEnds_do_not_matter
  have hread : tree.read [] ⟨.absolute, ["a.h"]⟩ = .ok text.toUTF8 := rfl
  exact ⟨⟨rfl, hlines mixed plain rfl⟩, hread, hfile tree [] ⟨.absolute, ["a.h"]⟩ text hread⟩

end HeaderEnum.Header
