import HeaderEnum.Proofs.Header.LineEnds
import HeaderEnum.Proofs.Naming.Survivors

/-!
# Longer and reordered headers

A header that grows at its end keeps its constants in front of the new ones, so it keeps the clash
that it had, and while it has none it keeps its entries in front of those of the new constants. A
header with its lines in another order defines the same names equally often, so it has the same
entries and the same warnings in another order, or a clash in both orders. Which clash is reported
depends on the order, and nothing is said about that.
-/

namespace HeaderEnum.Naming

namespace Rules

variable {rules : Rules}

/-! ## More constants, and constants in another order -/

/-- Constants that come later leave the first clash as it is. -/
theorem FirstClash.append {constants before : List String} {late owner : String}
    (h : rules.FirstClash constants before late owner) (others : List String) :
    rules.FirstClash (constants ++ others) before late owner := by
  obtain ⟨after, hsplit⟩ := h.split
  have hlonger : constants ++ others = before ++ late :: (after ++ others) := by
    rw [hsplit, List.append_assoc, List.cons_append]
  exact { h with split := ⟨after ++ others, hlonger⟩ }

/-- Constants that are distinguished among more of them are distinguished on their own. -/
theorem Distinguishes.of_append {constants others : List String}
    (h : rules.Distinguishes (constants ++ others)) : rules.Distinguishes constants := by
  have hmore : ∀ constant ∈ rules.survivors constants,
      constant ∈ rules.survivors (constants ++ others) := by
    intro constant hm
    rw [survivors, List.filter_append]
    exact List.mem_append_left _ hm
  intro first hf second hs
  exact h first (hmore first hf) second (hmore second hs)

/-- Whether constants are distinguished does not depend on their order. -/
theorem distinguishes_of_perm {constants others : List String} (h : constants.Perm others) :
    rules.Distinguishes constants ↔ rules.Distinguishes others := by
  have hmem : ∀ constant, constant ∈ rules.survivors constants ↔
      constant ∈ rules.survivors others := fun constant => (h.filter _).mem_iff
  simp only [Distinguishes, hmem]

/-- A header has entries exactly when its constants are distinguished. -/
theorem exists_entriesOf_iff (words : ReservedWords) (header : String) :
    (∃ found, rules.entriesOf words header = .ok found) ↔
      rules.Distinguishes (Header.scan header).constants := by
  constructor
  · rintro ⟨found, h⟩
    exact (entriesOf_eq_ok h).1
  · intro hd
    exact ⟨_, entriesOf_of_distinguishes words hd⟩

/-! ## Headers that grow at their end -/

/-- A header that grows at its end keeps what it gave. If it had a collision, the longer header has
the same one. If the longer header has entries, so had the header, and its entries stand in front of
those of the surviving constants that the new text is the first to define. -/
theorem entriesOf_longer (rules : Rules) (words : ReservedWords) (header more : String) :
    (∀ clash, rules.entriesOf words header = .error clash →
      ∃ later, rules.entriesOf words (header ++ "\n" ++ more) = .error later ∧
        later.collision = clash.collision) ∧
    ∀ grown, rules.entriesOf words (header ++ "\n" ++ more) = .ok grown →
      ∃ found, rules.entriesOf words header = .ok found ∧
        grown.entries = found.entries ++
          (rules.survivors (Header.newConstants header more)).map (rules.entry words) := by
  have hnames : Header.occurrences (header ++ "\n" ++ more) =
      Header.occurrences header ++ Header.occurrences more :=
    Header.occurrences_append_lineEnd header .feed more
  have hconstants := Header.constants_of_append hnames
  constructor
  · intro clash h
    have hd : ¬rules.Distinguishes (Header.scan header).constants := by
      intro hd
      rw [entriesOf_of_distinguishes words hd] at h
      contradiction
    obtain ⟨before, late, owner, hc⟩ := exists_firstClash (Header.nodup_constants header) hd
    have hlonger : rules.FirstClash (Header.scan (header ++ "\n" ++ more)).constants before late
        owner := by
      rw [hconstants]
      exact hc.append _
    rw [entriesOf_of_firstClash words hc] at h
    refine ⟨_, entriesOf_of_firstClash words hlonger, ?_⟩
    rw [← Except.error.inj h]
  · intro grown h
    obtain ⟨hd, hgrown⟩ := entriesOf_eq_ok h
    rw [hconstants] at hd
    refine ⟨_, entriesOf_of_distinguishes words hd.of_append, ?_⟩
    rw [hgrown, hconstants, survivors, List.filter_append, List.map_append]
    rfl

/-- A header with a collision, and one that ends in a definition cut off. -/
theorem entriesOf_longer_cutOff :
    let rules : Rules := { prefixes := ["k"] }
    let clashing := "#define kA 1\n#define k_a 2"
    let header := "#define kA 1\r#define"
    let more := " kB\n#define kA 2;#define kC"
    (∃ clash later, rules.entriesOf .none clashing = .error clash ∧
      rules.entriesOf .none (clashing ++ "\n" ++ more) = .error later ∧
        later.collision = clash.collision) ∧
    ∃ grown found, rules.entriesOf .none (header ++ "\n" ++ more) = .ok grown ∧
      rules.entriesOf .none header = .ok found ∧
        grown.entries = found.entries ++
          (rules.survivors (Header.newConstants header more)).map (rules.entry .none) := by
  intro rules clashing header more
  have hclash : rules.entriesOf .none clashing = .error ⟨⟨"a", "k_a", "kA"⟩, []⟩ := by
    decide +kernel
  have hgrown : rules.entriesOf .none (header ++ "\n" ++ more) =
      .ok ⟨[⟨"kA", "a"⟩, ⟨"kC", "c"⟩], [.repeated "kA"]⟩ := by decide +kernel
  obtain ⟨later, hlater, hsame⟩ := (entriesOf_longer rules .none clashing more).1 _ hclash
  obtain ⟨found, hfound, hentries⟩ := (entriesOf_longer rules .none header more).2 _ hgrown
  exact ⟨⟨_, later, hclash, hlater, hsame⟩, _, found, hgrown, hfound, hentries⟩

/-! ## Headers with their lines in another order -/

/-- Lines in another order give entries when the lines in the first order do, and then the entries
and the warnings are the same in another order. -/
theorem entriesOf_reordered {lines others : List String} (h : lines.Perm others) (rules : Rules)
    (words : ReservedWords) :
    ((∃ found, rules.entriesOf words (Text.joinLines lines) = .ok found) ↔
      ∃ found, rules.entriesOf words (Text.joinLines others) = .ok found) ∧
    ∀ first second, rules.entriesOf words (Text.joinLines lines) = .ok first →
      rules.entriesOf words (Text.joinLines others) = .ok second →
        first.entries.Perm second.entries ∧ first.warnings.Perm second.warnings := by
  have hnames : (Header.occurrences (Text.joinLines lines)).Perm
      (Header.occurrences (Text.joinLines others)) := by
    rw [Header.occurrences_joinLines, Header.occurrences_joinLines]
    exact h.flatMap_right _
  obtain ⟨hconstants, hrepeated⟩ := Header.scan_perm hnames
  constructor
  · rw [exists_entriesOf_iff, exists_entriesOf_iff, distinguishes_of_perm hconstants]
  · intro first second hf hs
    obtain ⟨-, hfirst⟩ := entriesOf_eq_ok hf
    obtain ⟨-, hsecond⟩ := entriesOf_eq_ok hs
    rw [hfirst, hsecond]
    have hentries := (hconstants.filter rules.survives).map (rules.entry words)
    have hskipped := (hconstants.filter rules.empties).map Warning.emptied
    exact ⟨hentries, (hrepeated.map Warning.repeated).append hskipped⟩

/-- Three lines in the opposite order, with a constant defined twice and one of which nothing is
left. -/
theorem entriesOf_reordered_opposite :
    let rules : Rules := { prefixes := ["k"] }
    let lines := ["#define kA 1", "#define k;#define kB", "\t#define kA 3;#define k"]
    let others := ["\t#define kA 3;#define k", "#define k;#define kB", "#define kA 1"]
    lines.Perm others ∧
      ∃ first second, rules.entriesOf .none (Text.joinLines lines) = .ok first ∧
        rules.entriesOf .none (Text.joinLines others) = .ok second ∧
          first.entries.Perm second.entries ∧ first.warnings.Perm second.warnings := by
  intro rules lines others
  have hperm : lines.Perm others := (List.reverse_perm lines).symm
  have hfirst : rules.entriesOf .none (Text.joinLines lines) =
      .ok ⟨[⟨"kA", "a"⟩, ⟨"kB", "b"⟩],
        [.repeated "kA", .repeated "k", .emptied "k"]⟩ := by decide +kernel
  obtain ⟨hexists, hsame⟩ := entriesOf_reordered hperm rules .none
  obtain ⟨second, hsecond⟩ := hexists.mp ⟨_, hfirst⟩
  exact ⟨hperm, _, second, hfirst, hsecond, hsame _ second hfirst hsecond⟩

end Rules

end HeaderEnum.Naming
