import HeaderEnum.Proofs.Swift.CaseNames
import HeaderEnum.Proofs.Swift.Reading

/-!
# Two forms of one bijection

Constants and case names of a generated enum belong together one to one, and both forms of the file
say so. The expanded form says it three times: as its list of cases, as the switch from constants to
cases, and as the switch back, which are inverse to each other. The annotated form says it with a
marker above each case. Nothing is said about what a compiler makes of either form.
-/

namespace HeaderEnum.Swift

open Text (OnOneLine between? linesBelow?)

/-- The same layout in the given form. -/
def Layout.inForm (layout : Layout) (expand : Bool) : Layout := { layout with expand := expand }

/-- What the expanded form of a text says below the head of the layout. -/
def Layout.expansionIn? (layout : Layout) (text : String) : Option Expansion :=
  (linesBelow? layout.headLines text).bind (readPlain layout.enumName layout.member)

/-- Constants and cases that the annotated form of a text pairs below the head of the layout. -/
def Layout.markedIn? (layout : Layout) (text : String) : Option (List (String × String)) :=
  (linesBelow? layout.headLines text).bind (readMarked layout.member)

/-- The two switches are inverse to each other and know each case. -/
structure Expansion.IsBijection (expansion : Expansion) : Prop where
  /-- No case is declared twice. -/
  cases_nodup : expansion.cases.Nodup
  /-- No two arms are for the same constant. -/
  constants_nodup : (expansion.fromConstant.map (·.1)).Nodup
  /-- No two arms are for the same case. -/
  names_nodup : (expansion.fromCase.map (·.1)).Nodup
  /-- What one switch gives the other one takes back. -/
  inverse : ∀ constant name,
    expansion.caseOf? constant = some name ↔ expansion.constantOf? name = some constant
  /-- The declared cases are those that have a constant. -/
  covered : ∀ name, name ∈ expansion.cases ↔ ∃ constant, expansion.constantOf? name = some constant

/-! ## Generated entries -/

/-- A generation that succeeds has the entries of its header and their file. -/
theorem generate_eq_ok {rules : Naming.Rules} {words : Naming.ReservedWords} {layout : Layout}
    {header : String} {generated : Generated}
    (h : generate rules words layout header = .ok generated) :
    ∃ warnings, rules.entriesOf words header = .ok ⟨generated.entries, warnings⟩ ∧
      layout.emit generated.entries = .ok generated.text := by
  rw [generate] at h
  cases he : rules.entriesOf words header with
  | error clash => simp [he] at h
  | ok found =>
    cases ht : layout.emit found.entries with
    | error diagnostic => simp [he, ht] at h
    | ok text =>
      simp only [he, ht, Except.ok.injEq] at h
      subst h
      exact ⟨found.warnings, rfl, ht⟩

/-- The entries of a header are well formed. -/
theorem wellFormed_of_entriesOf {rules : Naming.Rules} {header : String} {found : Naming.Entries}
    (h : rules.entriesOf reservedWords header = .ok found) : WellFormed found.entries := by
  obtain ⟨hd, rfl⟩ := Naming.Rules.entriesOf_eq_ok h
  exact wellFormed_entries (fun _ => Header.isAsciiIdentifier_of_mem_constants)
    (Header.nodup_constants header) hd

/-- A header with entries has a file in every layout. -/
theorem generate_of_entriesOf {rules : Naming.Rules} {header : String} {found : Naming.Entries}
    (h : rules.entriesOf reservedWords header = .ok found) (layout : Layout) :
    ∃ generated, generate rules reservedWords layout header = .ok generated ∧
      generated.entries = found.entries ∧ layout.emit found.entries = .ok generated.text := by
  obtain ⟨text, ht⟩ := emit_of_constants layout (wellFormed_of_entriesOf h).constant_ne_empty
  refine ⟨⟨found.entries, found.warnings ++ emissionWarnings found.entries, text⟩, ?_, rfl, ht⟩
  rw [generate, h]
  simp only [ht]

/-- A word has no line feed. -/
theorem onOneLine_of_isAsciiWordText {text : String} (h : Letter.IsAsciiWordText text.toList) :
    OnOneLine text := fun hm => absurd (h _ hm) (by decide)

/-- A written case name stands on one line. -/
theorem IsWritten.onOneLine {text : String} (h : IsWritten text) : OnOneLine text := by
  cases h with
  | plain hn hk => exact onOneLine_of_isAsciiWordText hn.isAsciiWordText
  | quoted hn hk =>
    rw [Text.onOneLine_append, Text.onOneLine_append]
    exact ⟨⟨by decide, onOneLine_of_isAsciiWordText hn.isAsciiWordText⟩, by decide⟩

/-- The texts of well-formed entries stand on one line each. -/
theorem WellFormed.onLines {entries : List Naming.Entry} (h : WellFormed entries) :
    ∀ entry ∈ entries, EntryOnLines entry := fun entry hm =>
  ⟨onOneLine_of_isAsciiWordText (h.constants entry hm).isAsciiWord,
    (h.identifiers entry hm).onOneLine⟩

/-! ## Inverse switches -/

/-- Among pairs whose first parts differ, looking up gives the pairs that are there. -/
theorem lookup_eq_some_iff_mem {pairs : List (String × String)} (hn : (pairs.map (·.1)).Nodup)
    {key value : String} : pairs.lookup key = some value ↔ (key, value) ∈ pairs := by
  rw [List.lookup_eq_some_iff]
  constructor
  · rintro ⟨before, after, rfl, -⟩
    exact List.mem_append_right before List.mem_cons_self
  · intro hm
    obtain ⟨before, after, rfl⟩ := List.append_of_mem hm
    rw [List.map_append, List.map_cons] at hn
    have hfresh : key ∉ before.map (·.1) := fun hk =>
      List.disjoint_of_nodup_append hn hk List.mem_cons_self
    refine ⟨before, after, rfl, fun pair hp => bne_iff_ne.mpr ?_⟩
    rintro rfl
    exact hfresh (List.mem_map_of_mem hp)

/-- The expansion of well-formed entries is a bijection. -/
theorem isBijection_ofEntries {entries : List Naming.Entry} (h : WellFormed entries) :
    (Expansion.ofEntries entries).IsBijection := by
  have hfrom : ((Expansion.ofEntries entries).fromConstant.map (·.1)).Nodup := by
    have hmap : (Expansion.ofEntries entries).fromConstant.map (·.1) = entries.map (·.constant) :=
      List.map_map
    rw [hmap]
    exact h.constants_nodup
  have hto : ((Expansion.ofEntries entries).fromCase.map (·.1)).Nodup := by
    have hmap : (Expansion.ofEntries entries).fromCase.map (·.1) = entries.map (·.identifier) :=
      List.map_map
    rw [hmap]
    exact h.identifiers_nodup
  have hpair : ∀ constant name, (constant, name) ∈ (Expansion.ofEntries entries).fromConstant ↔
      (name, constant) ∈ (Expansion.ofEntries entries).fromCase := by
    intro constant name
    simp only [Expansion.ofEntries, List.mem_map, Prod.mk.injEq]
    exact exists_congr fun entry => and_congr_right fun _ => and_comm
  refine ⟨h.identifiers_nodup, hfrom, hto, fun constant name => ?_, fun name => ?_⟩
  · rw [Expansion.caseOf?, Expansion.constantOf?, lookup_eq_some_iff_mem hfrom,
      lookup_eq_some_iff_mem hto]
    exact hpair constant name
  · simp only [Expansion.constantOf?, lookup_eq_some_iff_mem hto]
    simp only [Expansion.ofEntries, List.mem_map, Prod.mk.injEq]
    constructor
    · rintro ⟨entry, hm, rfl⟩
      exact ⟨entry.constant, entry, hm, rfl, rfl⟩
    · rintro ⟨_, entry, hm, rfl, -⟩
      exact ⟨entry, hm, rfl⟩

/-! ## The two forms -/

/-- Below its head a file has the lines of its entries, whatever the head holds. -/
theorem Layout.linesBelow?_of_emit (layout : Layout) (hname : OnOneLine layout.enumName)
    {entries : List Naming.Entry} (h : ∀ entry ∈ entries, EntryOnLines entry) {text : String}
    (ht : layout.emit entries = .ok text) :
    linesBelow? layout.headLines text = some (layout.bodyLines entries) := by
  obtain ⟨-, rfl⟩ := (layout.emit_eq_ok_iff entries text).mp ht
  exact Text.linesBelow?_joinLines layout.headLines_ne_nil (layout.bodyLines_ne_nil entries)
    (layout.bodyLines_onOneLine hname h)

/-- The expanded form says the expansion of its entries. -/
theorem Layout.expansionIn?_of_emit (layout : Layout) (he : layout.expand = true)
    (hname : OnOneLine layout.enumName) {entries : List Naming.Entry}
    (h : ∀ entry ∈ entries, EntryOnLines entry) {text : String}
    (ht : layout.emit entries = .ok text) :
    layout.expansionIn? text = some (Expansion.ofEntries entries) := by
  rw [expansionIn?, layout.linesBelow?_of_emit hname h ht, bodyLines, he, if_pos rfl,
    Option.bind_some]
  exact readPlain_plainLines layout entries

/-- The annotated form pairs the constant and the case of each entry. -/
theorem Layout.markedIn?_of_emit (layout : Layout) (he : layout.expand = false)
    (hname : OnOneLine layout.enumName) {entries : List Naming.Entry}
    (h : ∀ entry ∈ entries, EntryOnLines entry) {text : String}
    (ht : layout.emit entries = .ok text) :
    layout.markedIn? text = some (entries.map fun entry => (entry.constant, entry.identifier)) := by
  rw [markedIn?, layout.linesBelow?_of_emit hname h ht, bodyLines, he, if_neg Bool.false_ne_true,
    Option.bind_some]
  exact readMarked_markedLines layout entries

/-- No line of a head is moved to the right. -/
theorem Layout.OnLines.head?_headLines {layout : Layout} (h : layout.OnLines) :
    ∀ line ∈ layout.headLines, line.toList.head? ≠ some ' ' := by
  have himports : ∀ line ∈ layout.importLines, line.toList.head? ≠ some ' ' := by
    intro line hl
    obtain ⟨name, -, rfl⟩ := List.mem_map.mp hl
    rw [String.toList_append]
    exact fun he => absurd (Option.some.inj he) (by decide)
  have hmarker : ∀ line ∈ layout.enumMarkerLines, line.toList.head? ≠ some ' ' := by
    rw [enumMarkerLines]
    cases layout.expand <;> decide
  have hchoices : ∀ access ∈ accessChoices, (accessText access ++ "enum ").toList ≠ [] ∧
      (accessText access ++ "enum ").toList.head? ≠ some ' ' := by decide
  have hopening : layout.opening.toList.head? ≠ some ' ' := by
    obtain ⟨hne, hfirst⟩ := hchoices layout.access h.access
    rw [opening, String.append_assoc, String.toList_append, List.head?_append_of_ne_nil _ hne]
    exact hfirst
  simp only [headLines, List.forall_mem_append, List.forall_mem_singleton]
  exact ⟨⟨⟨⟨by decide, himports⟩, by decide⟩, hmarker⟩, hopening⟩

/-- In the annotated form of a layout on lines the whole file has no other markers and no other
cases. -/
theorem Layout.OnLines.filterMap_of_emit {layout : Layout} (hl : layout.OnLines)
    (he : layout.expand = false) {entries : List Naming.Entry}
    (h : ∀ entry ∈ entries, EntryOnLines entry) {text : String}
    (ht : layout.emit entries = .ok text) :
    (Text.lines text).filterMap markedConstant? = entries.map (·.constant) ∧
      (Text.lines text).filterMap (caseName? layout.member) = entries.map (·.identifier) := by
  have hlines : Text.lines text = layout.headLines ++ layout.markedLines entries := by
    rw [hl.lines_of_emit h ht, bodyLines, he, if_neg Bool.false_ne_true]
  have hmarkers : layout.headLines.filterMap markedConstant? = [] :=
    List.filterMap_eq_nil_iff.mpr fun line hm =>
      markedConstant?_of_margin (hl.head?_headLines line hm)
  have hcases : layout.headLines.filterMap (caseName? layout.member) = [] :=
    List.filterMap_eq_nil_iff.mpr fun line hm => caseName?_of_margin _ (hl.head?_headLines line hm)
  obtain ⟨hconstants, hnames⟩ := filterMap_of_readMarked (readMarked_markedLines layout entries)
  rw [hlines, List.filterMap_append, List.filterMap_append, hmarkers, hcases, List.nil_append,
    List.nil_append]
  rw [List.map_map] at hconstants hnames
  exact ⟨hconstants, hnames⟩

/-- Both forms of a generated file describe the same bijection between constants and case names,
whatever the header, the rules and the layout, as long as the name of the enum stands on one line.
The expanded form declares the case names in order and its two switches go through the entries in
order and are inverse to each other. The annotated form has one marker directly above the case of
each entry, in order; if the other texts of the layout stand on one line too, these are the only
markers and cases of the whole file. -/
theorem forms_describe_one_bijection {rules : Naming.Rules} {layout : Layout} {header : String}
    {generated : Generated} (hname : OnOneLine layout.enumName)
    (hg : generate rules reservedWords layout header = .ok generated) :
    ∃ expanded annotated,
      generate rules reservedWords (layout.inForm true) header = .ok expanded ∧
      generate rules reservedWords (layout.inForm false) header = .ok annotated ∧
      expanded.entries = generated.entries ∧ annotated.entries = generated.entries ∧
      (layout.inForm true).expansionIn? expanded.text =
        some (Expansion.ofEntries generated.entries) ∧
      (Expansion.ofEntries generated.entries).IsBijection ∧
      (layout.inForm false).markedIn? annotated.text =
        some (generated.entries.map fun entry => (entry.constant, entry.identifier)) ∧
      ((layout.inForm false).OnLines →
        (Text.lines annotated.text).filterMap markedConstant? = generated.entries.map (·.constant) ∧
        (Text.lines annotated.text).filterMap (caseName? layout.member) =
          generated.entries.map (·.identifier)) := by
  obtain ⟨warnings, hentries, -⟩ := generate_eq_ok hg
  obtain ⟨expanded, hx, hxe, hxt⟩ := generate_of_entriesOf hentries (layout.inForm true)
  obtain ⟨annotated, ha, hae, hat⟩ := generate_of_entriesOf hentries (layout.inForm false)
  have hw : WellFormed generated.entries := wellFormed_of_entriesOf hentries
  have hexpansion := (layout.inForm true).expansionIn?_of_emit rfl hname hw.onLines hxt
  have hmarked := (layout.inForm false).markedIn?_of_emit rfl hname hw.onLines hat
  exact ⟨expanded, annotated, hx, ha, hxe, hae, hexpansion, isBijection_ofEntries hw, hmarked,
    fun hl => hl.filterMap_of_emit rfl hw.onLines hat⟩

/-- Two constants, one of which becomes a keyword, in both forms of a public enum. -/
theorem forms_describe_one_bijection_twoKeys :
    let rules : Naming.Rules := { prefixes := ["k"] }
    let layout : Layout := { enumName := "Key", access := some "public", imports := ["Foundation"] }
    let header := "#define kInit 1\n#define kLast 2\n"
    ∃ expanded annotated,
      generate rules reservedWords (layout.inForm true) header = .ok expanded ∧
      generate rules reservedWords (layout.inForm false) header = .ok annotated ∧
      (layout.inForm true).expansionIn? expanded.text =
        some ⟨["\x60init\x60", "last"], [("kInit", "\x60init\x60"), ("kLast", "last")],
          [("\x60init\x60", "kInit"), ("last", "kLast")]⟩ ∧
      (layout.inForm false).markedIn? annotated.text =
        some [("kInit", "\x60init\x60"), ("kLast", "last")] ∧
      (Text.lines annotated.text).filterMap markedConstant? = ["kInit", "kLast"] := by
  intro rules layout header
  have hentries : (generate rules reservedWords layout header).toOption.map (·.entries) =
      some [⟨"kInit", "\x60init\x60"⟩, ⟨"kLast", "last"⟩] := by decide +kernel
  cases hg : generate rules reservedWords layout header with
  | error failure =>
    rw [hg] at hentries
    contradiction
  | ok generated =>
    rw [hg] at hentries
    have he : generated.entries = [⟨"kInit", "\x60init\x60"⟩, ⟨"kLast", "last"⟩] :=
      Option.some.inj hentries
    have hl : (layout.inForm false).OnLines := ⟨by decide, by decide, by decide, by decide⟩
    obtain ⟨expanded, annotated, hx, ha, -, -, hexpansion, -, hmarked, hlines⟩ :=
      forms_describe_one_bijection hl.enumName hg
    rw [he] at hexpansion hmarked hlines
    exact ⟨expanded, annotated, hx, ha, hexpansion, hmarked, (hlines hl).1⟩

end HeaderEnum.Swift
