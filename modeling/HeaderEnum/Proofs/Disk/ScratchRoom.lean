import HeaderEnum.Proofs.Disk.Rewriting

/-!
# Room for the scratch file

A file can be written directly when its directory is there and its name is one that a directory can
hold. Writing it through a scratch file takes more: the scratch name is longer by a fixed number of
bytes, and it has to be short enough as well, by itself and as a whole path. Where there is room for
it, the write leaves the same tree as a direct one. Where there is none, the write fails and the tree
is as before, although a direct write would succeed. A text without bytes is written in neither way.
-/

namespace HeaderEnum.Disk

/-! ## Lengths -/

/-- How many bytes a scratch name has more than the name it is made for. -/
def scratchExcess : Nat := 14

/-- The letters of tags are ASCII. -/
theorem Tag.isAscii (tag : Tag) : Text.IsAscii (String.ofList tag.letters) := by
  intro c hc
  rw [String.toList_ofList] at hc
  have hall : tagLetters.all (fun c => c.toNat < 0x80) = true := by decide +kernel
  exact of_decide_eq_true (List.all_eq_true.mp hall c (tag.mem_tagLetters c hc))

section

variable [Platform]

/-- There is room for a scratch file next to a file: the system takes its name and its path. -/
structure HasRoom (root : Root) (place : Place) (name : String) : Prop where
  /-- A directory can hold the scratch name. -/
  nameFits : Text.byteSize name + scratchExcess ≤ 255
  /-- The whole path of the scratch file is not too long. -/
  pathFits : Text.byteSize (Tree.wholePath root place name).toText + scratchExcess ≤ 4095

/-- A tag takes a byte for each of its letters. -/
theorem Tag.byteSize_letters (tag : Tag) : Text.byteSize (String.ofList tag.letters) = tagLength := by
  rw [Text.byteSize_ascii tag.isAscii, String.length_ofList, tag.length_letters]

/-- A scratch name is longer than the name by the excess. -/
theorem byteSize_scratchName (name : String) (tag : Tag) :
    Text.byteSize (Tree.scratchName name tag) = Text.byteSize name + scratchExcess := by
  have hdot : Text.byteSize "." = 1 := Text.byteSize_ascii (by decide)
  have hend : Text.byteSize ".tmp" = 4 := Text.byteSize_ascii (by decide)
  simp only [Tree.scratchName, Text.byteSize_append, hdot, hend, tag.byteSize_letters, tagLength,
    scratchExcess]
  omega

/-- The size of joined texts grows with the last of them. -/
theorem byteSize_joinWith_concat (separator : String) (front : List String) (last : String) :
    Text.byteSize (Text.joinWith separator (front ++ [last])) =
      Text.byteSize (Text.joinWith separator (front ++ [""])) + Text.byteSize last := by
  induction front with
  | nil =>
    have hempty : Text.byteSize "" = 0 := rfl
    simp only [List.nil_append, Text.joinWith, hempty, Nat.zero_add]
  | cons first rest ih =>
    have hcons : ∀ text, Text.joinWith separator (first :: rest ++ [text]) =
        first ++ separator ++ Text.joinWith separator (rest ++ [text]) := by
      intro text
      cases rest with
      | nil => rfl
      | cons second others => rfl
    simp only [hcons, Text.byteSize_append, ih]
    omega

/-- The path of a scratch file is longer than that of the file by the excess. -/
theorem byteSize_scratchPath (root : Root) (place : Place) (name : String) (tag : Tag) :
    Text.byteSize (Tree.wholePath root place (Tree.scratchName name tag)).toText =
      Text.byteSize (Tree.wholePath root place name).toText + scratchExcess := by
  obtain ⟨slashes, hslashes⟩ : ∃ slashes, ∀ last, (Tree.wholePath root place last).toText =
      slashes ++ Text.joinWith "/" (place ++ [last]) := by
    cases root with
    | doubled => exact ⟨"//", fun _ => rfl⟩
    | _ => exact ⟨"/", fun _ => rfl⟩
  rw [hslashes, hslashes, Text.byteSize_append, Text.byteSize_append, byteSize_joinWith_concat,
    byteSize_joinWith_concat "/" place name, byteSize_scratchName]
  omega

namespace Tree

variable {tree : Tree} {tags : Nat → Tag} {root : Root} {cwd place : Place} {path : Path}
  {name : String}

/-- A scratch file is too long exactly when there is no room for it, whatever its tag is. -/
theorem isScratchTooLong_eq_false_iff {tag : Tag} :
    isScratchTooLong root place (scratchName name tag) = false ↔ HasRoom root place name := by
  simp only [isScratchTooLong, isTooLong, isPathTooLong, Bool.or_eq_false_iff,
    decide_eq_false_iff_not, Nat.not_lt, byteSize_scratchName, byteSize_scratchPath]
  constructor
  · rintro ⟨hn, hp⟩
    exact ⟨hn, hp⟩
  · intro h
    exact ⟨h.nameFits, h.pathFits⟩

/-! ## Writing directly -/

/-- Write bytes straight to the file that a path denotes, in the stead of a file there. -/
def writeDirectly (tree : Tree) (cwd : Place) (path : Path) (bytes : ByteArray) :
    Except FileFault Tree :=
  match tree.target? cwd path with
  | .error fault => .error fault
  | .ok none => .error .isDirectory
  | .ok (some (place, name)) =>
    if isTooLong name then .error .nameTooLong
    else if tree.isDirectoryAt (place ++ [name]) then .error .isDirectory
    else .ok (tree.put (place ++ [name]) (.file bytes))

/-- One of the tags that are tried makes a name that is free in a directory. -/
def HasFreeName (tree : Tree) (tags : Nat → Tag) (place : Place) (name : String) : Prop :=
  ∃ number < scratchAttempts, tree.find? (place ++ [scratchName name (tags number)]) = none

/-- What it takes to write a file directly: the system takes its path, its directory is there, its
name is an ordinary one that a directory can hold, and the path denotes no directory. -/
structure IsDirectlyWritable (tree : Tree) (cwd : Place) (path : Path) (name : String) : Prop where
  /-- The name is the last one of the path. -/
  last : path.names.getLast? = some name
  /-- The name does not lead back. -/
  down : name ≠ ".."
  /-- A directory can hold the name. -/
  fits : isTooLong name = false
  /-- The system takes the path by its characters. -/
  taken : path.crash? = none
  /-- The system takes the path by its length. -/
  short : isPathTooLong path = false
  /-- The directory is there. -/
  parent : tree.isDirectory cwd path.parent = true
  /-- No directory is in the way. -/
  free : tree.isDirectory cwd path = false

/-- A new name in a directory that is there can be written directly. -/
theorem isDirectlyWritable_of_new (hlast : path.names.getLast? = some name) (hdown : name ≠ "..")
    (hfits : isTooLong name = false) (htaken : path.crash? = none)
    (hshort : isPathTooLong path = false) (hparent : tree.resolve cwd path.parent = .ok place)
    (hd : tree.isDirectoryAt place = true) (hnew : tree.find? (place ++ [name]) = none) :
    tree.IsDirectlyWritable cwd path name := by
  have hnames : path.names = path.parent.names ++ [name] :=
    (List.dropLast_append_getLast? name hlast).symm
  have ht : tree.HasTarget cwd path place name := ⟨hnames, hshort, hparent, hd, hdown⟩
  refine ⟨hlast, hdown, hfits, htaken, hshort, by simp only [isDirectory, hparent, hd], ?_⟩
  cases hr : tree.resolve cwd path with
  | error fault => simp only [isDirectory, hr]
  | ok found =>
    have hthere := ht.find?_of_resolve hr
    rw [hnew] at hthere
    contradiction

/-- A path that can be written directly has a target. -/
theorem IsDirectlyWritable.exists_hasTarget (h : tree.IsDirectlyWritable cwd path name) :
    ∃ place, tree.HasTarget cwd path place name := by
  have hparent := h.parent
  rw [isDirectory] at hparent
  split at hparent
  · rename_i place hplace
    have hnames : path.names = path.parent.names ++ [name] :=
      (List.dropLast_append_getLast? name h.last).symm
    exact ⟨place, hnames, h.short, hplace, hparent, h.down⟩
  · contradiction

/-- No directory is at the target of such a path. -/
theorem IsDirectlyWritable.isDirectoryAt_eq_false (h : tree.IsDirectlyWritable cwd path name)
    (ht : tree.HasTarget cwd path place name) : tree.isDirectoryAt (place ++ [name]) = false := by
  by_contra hd
  have hthere : tree.isDirectoryAt (place ++ [name]) = true := by simpa using hd
  have hpresent : (tree.find? (place ++ [name])).isSome = true := by
    rw [eq_of_beq hthere]
    rfl
  have hresolve := ht.resolve (.refl tree) h.fits hpresent
  have hfree := h.free
  simp only [isDirectory, hresolve, hthere, Bool.true_eq_false] at hfree

/-- A direct write to such a path puts the bytes at its target. -/
theorem IsDirectlyWritable.writeDirectly_eq (h : tree.IsDirectlyWritable cwd path name)
    (ht : tree.HasTarget cwd path place name) (bytes : ByteArray) :
    tree.writeDirectly cwd path bytes = .ok (tree.put (place ++ [name]) (.file bytes)) := by
  simp only [writeDirectly, ht.target?_eq, h.fits, h.isDirectoryAt_eq_false ht, Bool.false_eq_true,
    if_false]

/-! ## Writing through a scratch file -/

/-- With room and a free name there is a scratch name. -/
theorem exists_freeScratch? (hroom : HasRoom root place name)
    (hname : tree.HasFreeName tags place name) :
    ∃ scratch, tree.freeScratch? tags root place name = .ok scratch := by
  obtain ⟨number, hlt, hnumber⟩ := hname
  unfold freeScratch?
  rw [isScratchTooLong_eq_false_iff.mpr hroom, if_neg Bool.false_ne_true]
  split
  · rename_i found _
    exact ⟨_, rfl⟩
  · rename_i hnone
    have htaken := not_passes_of_firstFrom? hnone (Nat.zero_le number) (by omega)
    rw [hnumber] at htaken
    contradiction

/-- Without room no scratch name fits. -/
theorem freeScratch?_of_not_hasRoom (h : ¬HasRoom root place name) :
    tree.freeScratch? tags root place name = .error .nameTooLong := by
  have hlong : isScratchTooLong root place (scratchName name (tags 0)) = true := by
    rw [← isScratchTooLong_eq_false_iff, Bool.not_eq_false] at h
    exact h
  rw [freeScratch?, hlong, if_pos rfl]

/-- Where there is a scratch name, there is room. -/
theorem hasRoom_of_freeScratch? {scratch : String}
    (h : tree.freeScratch? tags root place name = .ok scratch) : HasRoom root place name := by
  by_contra hroom
  rw [freeScratch?_of_not_hasRoom hroom] at h
  contradiction

/-- With room, but no free name, all scratch names are taken. -/
theorem freeScratch?_of_not_hasFreeName (hroom : HasRoom root place name)
    (h : ¬tree.HasFreeName tags place name) :
    tree.freeScratch? tags root place name = .error .noScratch := by
  unfold freeScratch?
  rw [isScratchTooLong_eq_false_iff.mpr hroom, if_neg Bool.false_ne_true]
  split
  · rename_i number hfound
    obtain ⟨hfree, hlt⟩ := passes_of_firstFrom? hfound
    rw [Nat.zero_add] at hlt
    exact absurd ⟨number, hlt, Option.isNone_iff_eq_none.mp hfree⟩ h
  · rfl

/-- Without a scratch name nothing is written. -/
theorem replaceIn_of_no_scratch {text : String} {fault : FileFault}
    (hparent : tree.resolve cwd path.parent = .ok place)
    (hs : tree.freeScratch? tags path.root place path.lastName = .error fault) :
    tree.replaceIn tags cwd path text = ⟨tree, .error (.fault fault)⟩ := by
  simp only [replaceIn, hparent, hs]

/-- A text that cannot be encoded is not written. -/
theorem replace_of_not_isEncodable {text : String} (h : ¬Text.IsEncodable text) :
    ∃ halt, (tree.replace tags cwd path text).result = .error halt := by
  have htried := tree.replace_spec tags cwd path text
  generalize tree.replace tags cwd path text = attempt at htried
  cases htried with
  | done _ henc => exact absurd henc h
  | stopped => exact ⟨_, rfl⟩
  | abandoned => exact ⟨_, rfl⟩

/-- A path that can be written directly can be written. -/
theorem IsDirectlyWritable.isWritable (h : tree.IsDirectlyWritable cwd path name)
    (ht : tree.HasTarget cwd path place name) : tree.IsWritable cwd path place name :=
  ⟨ht, h.taken, h.fits, h.isDirectoryAt_eq_false ht⟩

/-- What was put at a target is read through its path. -/
theorem IsWritable.read_put (h : tree.IsWritable cwd path place name) (bytes : ByteArray) :
    (tree.put (place ++ [name]) (.file bytes)).read cwd path = .ok bytes := by
  have hself : (tree.put (place ++ [name]) (.file bytes)).find? (place ++ [name]) =
      some (.file bytes) := find?_put_self (by simp)
  have hresolve := h.target.resolve (h.grows_put bytes) h.fits (by rw [hself]; rfl)
  simp only [read, h.taken, hresolve, hself]

/-- A direct write of an encodable text to a path that allows it always succeeds, and the file then
holds the text. A write through a scratch file leaves the same tree if there is room for the scratch
file and one of its names is free. Without room, or without a free name, it fails and leaves the tree
as it was. -/
theorem replace_needs_room {tree : Tree} {cwd : Place} {path : Path} {name : String}
    (h : tree.IsDirectlyWritable cwd path name) (tags : Nat → Tag) (text : String) :
    ∃ place, tree.resolve cwd path.parent = .ok place ∧
      (¬Text.IsEncodable text → ∃ halt, (tree.replace tags cwd path text).result = .error halt) ∧
      (Text.IsEncodable text →
        ∃ direct, tree.writeDirectly cwd path text.toUTF8 = .ok direct ∧
          direct.read cwd path = .ok text.toUTF8 ∧
          (HasRoom path.root place name → tree.HasFreeName tags place name →
            tree.replace tags cwd path text = ⟨direct, .ok ()⟩) ∧
          (¬HasRoom path.root place name →
            tree.replace tags cwd path text = ⟨tree, .error (.fault .nameTooLong)⟩) ∧
          (HasRoom path.root place name → ¬tree.HasFreeName tags place name →
            tree.replace tags cwd path text = ⟨tree, .error (.fault .noScratch)⟩)) := by
  obtain ⟨place, ht⟩ := h.exists_hasTarget
  have hw := h.isWritable ht
  refine ⟨place, ht.parent, replace_of_not_isEncodable, fun henc => ?_⟩
  refine ⟨_, h.writeDirectly_eq ht text.toUTF8, hw.read_put text.toUTF8, ?_, ?_, ?_⟩
  · intro hroom hname
    obtain ⟨scratch, hs⟩ := exists_freeScratch? hroom hname
    rw [ht.replace_eq_replaceIn h.taken, hw.replaceIn_eq hs henc]
  · intro hroom
    rw [← ht.lastName_eq] at hroom
    rw [ht.replace_eq_replaceIn h.taken,
      replaceIn_of_no_scratch ht.parent (freeScratch?_of_not_hasRoom hroom)]
  · intro hroom hname
    rw [← ht.lastName_eq] at hroom hname
    rw [ht.replace_eq_replaceIn h.taken,
      replaceIn_of_no_scratch ht.parent (freeScratch?_of_not_hasFreeName hroom hname)]

end Tree

end

namespace Tree

/-- A name of 241 bytes, most of them in characters of two bytes, in a directory that is there: the
longest that leaves room for its scratch name. -/
theorem replace_needs_room_longestName :
    let tree : Tree := ⟨[(["gen"], .directory)]⟩
    let name := String.ofList ('a' :: List.replicate 120 'é')
    let path : Path := ⟨.relative, ["gen", name]⟩
    tree.IsDirectlyWritable [] path name ∧ HasRoom .relative ["gen"] name ∧
      tree.HasFreeName Tag.ofNumber ["gen"] name ∧ Text.IsEncodable "é" ∧
      ∃ direct, tree.writeDirectly [] path "é".toUTF8 = .ok direct ∧
        direct.read [] path = .ok "é".toUTF8 ∧
        tree.replace Tag.ofNumber [] path "é" = ⟨direct, .ok ()⟩ := by
  intro tree name path
  -- computed on the characters, since a text of this length is slow to take apart
  have hsize : Text.byteSize name = 241 := (Text.byteSize_ofList _).trans (by decide +kernel)
  have htext : Text.byteSize path.toText = 245 := by
    have hgen : Text.byteSize ("gen" ++ "/") = 4 := by decide +kernel
    have hjoined : ∀ last, Path.toText ⟨.relative, ["gen", last]⟩ = "" ++ ("gen" ++ "/" ++ last) :=
      fun _ => rfl
    rw [hjoined, Text.byteSize_append, Text.byteSize_append, hgen, hsize]
    rfl
  have hfits : isTooLong name = false := by rw [isTooLong, hsize]; rfl
  have hshort : isPathTooLong path = false := by rw [isPathTooLong, htext]; rfl
  have hdown : name ≠ ".." := by decide +kernel
  have htaken : path.crash? = none := by
    have hcharacters : ∀ chars, (⟨.relative, ["gen", String.ofList chars]⟩ : Path).characters =
        "gen".toList ++ chars := by
      simp [Path.characters]
    rw [Path.crash?_eq_none_iff, hcharacters]
    decide +kernel
  have hgen : tree.resolve [] path.parent = .ok ["gen"] := by decide +kernel
  have hopen : tree.IsDirectlyWritable [] path name :=
    isDirectlyWritable_of_new rfl hdown hfits htaken hshort hgen rfl (by decide +kernel)
  have hroom : HasRoom .relative ["gen"] name := by
    refine ⟨by rw [hsize]; decide, ?_⟩
    have hjoined : ∀ last, (wholePath .relative ["gen"] last).toText =
        "/" ++ ("gen" ++ "/" ++ last) := fun _ => rfl
    rw [hjoined, Text.byteSize_append, Text.byteSize_append, hsize]
    decide +kernel
  have hname : tree.HasFreeName Tag.ofNumber ["gen"] name := ⟨0, by decide, by decide +kernel⟩
  have henc : Text.IsEncodable "é" := by decide +kernel
  obtain ⟨place, hplace, -, hwrites⟩ := replace_needs_room hopen Tag.ofNumber "é"
  cases Except.ok.inj (hplace.symm.trans hgen)
  obtain ⟨direct, hdirect, hread, hreplace, -⟩ := hwrites henc
  exact ⟨hopen, hroom, hname, henc, direct, hdirect, hread, hreplace hroom hname⟩

/-- A name of 242 bytes in a directory that is there: a direct write takes it, while its scratch name
is too long. -/
theorem direct_write_without_room :
    let name := String.ofList (List.replicate 242 'a')
    let path : Path := ⟨.relative, [name]⟩
    empty.IsDirectlyWritable [] path name ∧
      (∃ direct, empty.writeDirectly [] path "x".toUTF8 = .ok direct) ∧
      (empty.replace Tag.ofNumber [] path "x").result = .error (.fault .nameTooLong) := by
  intro name path
  have hsize : Text.byteSize name = 242 := (Text.byteSize_ofList _).trans (by decide +kernel)
  have hfits : isTooLong name = false := by rw [isTooLong, hsize]; rfl
  have htext : ∀ last, Text.byteSize (Path.toText ⟨.relative, [last]⟩) = Text.byteSize last :=
    fun last => (Text.byteSize_append "" last).trans (Nat.zero_add _)
  have hshort : isPathTooLong path = false := by rw [isPathTooLong, htext, hsize]; rfl
  have hdown : name ≠ ".." := by decide +kernel
  have htaken : path.crash? = none := by
    have hcharacters : ∀ chars, (⟨.relative, [String.ofList chars]⟩ : Path).characters = chars := by
      simp [Path.characters]
    rw [Path.crash?_eq_none_iff, hcharacters]
    decide +kernel
  have hhere : empty.resolve [] path.parent = .ok [] := by decide +kernel
  have hopen : empty.IsDirectlyWritable [] path name :=
    isDirectlyWritable_of_new rfl hdown hfits htaken hshort hhere rfl (by decide +kernel)
  obtain ⟨place, ht⟩ := hopen.exists_hasTarget
  have hroom : ¬HasRoom path.root place path.lastName := by
    intro h
    have hfits := h.nameFits
    rw [ht.lastName_eq, hsize] at hfits
    exact absurd hfits (by decide)
  refine ⟨hopen, ⟨_, hopen.writeDirectly_eq ht _⟩, ?_⟩
  rw [ht.replace_eq_replaceIn hopen.taken,
    replaceIn_of_no_scratch ht.parent (freeScratch?_of_not_hasRoom hroom)]

end Tree

end HeaderEnum.Disk
