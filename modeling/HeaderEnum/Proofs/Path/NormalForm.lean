import HeaderEnum.Path

/-!
# Paths in normal form

A path in normal form is a root with names that lead somewhere and hold no slash. Every text denotes
such a path, and reading, joining and taking the parent stay among them. Its own text denotes a path
in normal form again, so a path can be handed on as a text without loss; when it has a root of its
own, it does not matter from where it is read.
-/

namespace HeaderEnum.Path

variable {path base : Path}

/-- Each name leads somewhere and holds no slash. -/
def IsNormal (path : Path) : Prop := ∀ name ∈ path.names, isProper name = true ∧ '/' ∉ name.toList

/-- Only the names decide. -/
instance (path : Path) : Decidable path.IsNormal :=
  inferInstanceAs (Decidable (∀ name ∈ path.names, isProper name = true ∧ '/' ∉ name.toList))

/-- The path has a root of its own. -/
def IsRooted (path : Path) : Prop := path.root ≠ .relative

/-- Only the root decides. -/
instance (path : Path) : Decidable path.IsRooted :=
  inferInstanceAs (Decidable (path.root ≠ .relative))

/-! ## Normal forms -/

/-- Every text denotes a path in normal form. -/
theorem isNormal_ofString (text : String) : (ofString text).IsNormal := by
  intro name hm
  obtain ⟨hmem, hproper⟩ := List.mem_filter.mp hm
  obtain ⟨piece, hpiece, rfl⟩ := List.mem_map.mp hmem
  refine ⟨hproper, fun hslash => ?_⟩
  rw [String.toList_ofList] at hslash
  have hcut := Text.not_cut_of_mem_pieces hpiece hslash
  contradiction

/-- Joining keeps the normal form. -/
theorem IsNormal.below (h : path.IsNormal) (hb : base.IsNormal) : (path.below base).IsNormal := by
  rw [Path.below]
  split
  · intro name hm
    rcases List.mem_append.mp hm with hm | hm
    · exact hb name hm
    · exact h name hm
  · exact h

/-- A path that is read from a rooted one is rooted. -/
theorem isRooted_below (path : Path) (hb : base.IsRooted) : (path.below base).IsRooted := by
  rw [Path.below]
  split
  · exact hb
  · rename_i hroot
    exact hroot

/-- A rooted path is the same from everywhere. -/
theorem IsRooted.below_eq (h : path.IsRooted) (base : Path) : path.below base = path := if_neg h

/-! ## The text of a path -/

/-- The names in a text, as a path reads them. -/
def namesIn (text : List Char) : List String :=
  ((Text.pieces (· == '/') text).map String.ofList).filter isProper

/-- A proper name without slashes is read as itself. -/
theorem namesIn_name {name : String} (hproper : isProper name = true) (hslash : '/' ∉ name.toList) :
    namesIn name.toList = [name] := by
  have hpieces : Text.pieces (· == '/') name.toList = [name.toList] := by
    refine Text.pieces_of_forall fun c hc => beq_eq_false_iff_ne.mpr ?_
    rintro rfl
    exact hslash hc
  rw [namesIn, hpieces, List.map_singleton, String.ofList_toList, List.filter_cons_of_pos hproper,
    List.filter_nil]

/-- Names before a slash and names behind it are read one after the other. -/
theorem namesIn_append_slash (before behind : List Char) :
    namesIn (before ++ '/' :: behind) = namesIn before ++ namesIn behind := by
  have hpieces : Text.pieces (· == '/') (before ++ '/' :: behind) =
      Text.pieces (· == '/') before ++ Text.pieces (· == '/') behind :=
    Text.pieces_append_cons before behind rfl
  rw [namesIn, hpieces, List.map_append, List.filter_append]
  rfl

/-- Slashes at the front hold no names. -/
theorem namesIn_slashes_append (count : Nat) (text : List Char) :
    namesIn (List.replicate count '/' ++ text) = namesIn text := by
  induction count with
  | zero => rfl
  | succ count ih =>
    have hnone : namesIn [] = [] := rfl
    have hone := namesIn_append_slash [] (List.replicate count '/' ++ text)
    rw [hnone, List.nil_append, List.nil_append, ih] at hone
    exact hone

/-- Names without slashes are read back from their joined text. -/
theorem namesIn_joined {names : List String}
    (h : ∀ name ∈ names, isProper name = true ∧ '/' ∉ name.toList) :
    namesIn (Text.joinWith "/" names).toList = names := by
  induction names with
  | nil => rfl
  | cons first rest ih =>
    obtain ⟨hproper, hslash⟩ := h first List.mem_cons_self
    cases rest with
    | nil => exact namesIn_name hproper hslash
    | cons second others =>
      have hrest := ih fun name hm => h name (List.mem_cons_of_mem _ hm)
      have htext : (Text.joinWith "/" (first :: second :: others)).toList =
          first.toList ++ '/' :: (Text.joinWith "/" (second :: others)).toList := by
        simp [Text.joinWith]
      rw [htext, namesIn_append_slash, namesIn_name hproper hslash, hrest]
      rfl

/-- The joined text of names does not begin with a slash. -/
theorem takeWhile_joined {names : List String}
    (h : ∀ name ∈ names, isProper name = true ∧ '/' ∉ name.toList) :
    (Text.joinWith "/" names).toList.takeWhile (· == '/') = [] := by
  cases names with
  | nil => rfl
  | cons first rest =>
    obtain ⟨hproper, hslash⟩ := h first List.mem_cons_self
    obtain ⟨c, more, hfirst⟩ : ∃ c more, first.toList = c :: more := by
      refine List.exists_cons_of_ne_nil fun hnil => ?_
      rw [String.toList_eq_nil_iff.mp hnil] at hproper
      contradiction
    obtain ⟨behind, hbehind⟩ : ∃ behind, (Text.joinWith "/" (first :: rest)).toList =
        c :: behind := by
      cases rest with
      | nil => exact ⟨more, hfirst⟩
      | cons second others => simp [Text.joinWith, hfirst]
    have hc : ¬(c == '/') = true := by
      rw [beq_iff_eq]
      rintro rfl
      exact hslash (by rw [hfirst]; exact List.mem_cons_self)
    rw [hbehind]
    exact List.takeWhile_cons_of_neg hc

/-- How many slashes a root is written with. -/
def slashCount : Root → Nat
  | .relative => 0
  | .absolute => 1
  | .doubled => 2

/-- The text of a root is made of its slashes. -/
theorem toList_rootText (root : Root) :
    (rootText root).toList = List.replicate (slashCount root) '/' := by
  cases root <;> rfl

/-- The slashes of a root mean that root. -/
theorem rootOf_slashCount (root : Root) : rootOf (slashCount root) = root := by
  cases root <;> rfl

/-- A path in normal form is read back from its text. -/
theorem IsNormal.ofString_toText (h : path.IsNormal) : ofString path.toText = path := by
  rw [toText]
  split
  · -- the empty path is written as a dot, which is no name
    rename_i hempty
    obtain ⟨root, names⟩ := path
    simp only [Bool.and_eq_true, decide_eq_true_eq, List.isEmpty_iff] at hempty
    obtain ⟨rfl, rfl⟩ := hempty
    rfl
  · have htext : (rootText path.root ++ Text.joinWith "/" path.names).toList =
        List.replicate (slashCount path.root) '/' ++ (Text.joinWith "/" path.names).toList := by
      rw [String.toList_append, toList_rootText]
    have hslashes : ((rootText path.root ++ Text.joinWith "/" path.names).toList.takeWhile
        (· == '/')).length = slashCount path.root := by
      rw [htext, List.takeWhile_append_of_pos (by simp), takeWhile_joined h, List.append_nil,
        List.length_replicate]
    have hnames : namesIn (rootText path.root ++ Text.joinWith "/" path.names).toList =
        path.names := by
      rw [htext, namesIn_slashes_append, namesIn_joined h]
    rw [namesIn] at hnames
    rw [ofString, hslashes, hnames, rootOf_slashCount]

/-- The text of a rooted path is not empty. -/
theorem IsRooted.toText_ne_empty (h : path.IsRooted) : path.toText ≠ "" := by
  obtain ⟨root, names⟩ := path
  rw [toText, if_neg (by simp [show root ≠ .relative from h])]
  cases root with
  | relative => exact absurd rfl h
  | absolute => simp [rootText]
  | doubled => simp [rootText]

/-- A path that a text denotes from a base is in normal form. -/
theorem isNormal_resolve (text : String) (hb : base.IsNormal) : (resolve text base).IsNormal :=
  (isNormal_ofString text).below hb

/-- A rooted path in normal form is found again by its text, from wherever it is read. -/
theorem resolve_toText (hr : path.IsRooted) (hn : path.IsNormal) (base : Path) :
    resolve path.toText base = path := by
  rw [resolve, hn.ofString_toText, hr.below_eq]

end HeaderEnum.Path
