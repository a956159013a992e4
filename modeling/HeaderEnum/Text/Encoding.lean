import HeaderEnum.Text.Quoted

/-!
# Encoding texts

The bytes of a text as UTF-8. A lone surrogate has no bytes, so a text that holds one is not encoded
as a whole. The names of files are encoded more kindly: some surrogates stand there for single bytes.
A message is printed in any case, with a number in the place of a surrogate.
-/

namespace HeaderEnum.Text

/-- All characters of a text are ASCII. -/
def IsAscii (text : String) : Prop := ∀ c ∈ text.toList, c.toNat < 0x80

/-- Whether a text is ASCII can be looked up. -/
instance (text : String) : Decidable (IsAscii text) :=
  List.decidableBAll (fun c : Char => c.toNat < 0x80) text.toList

variable [Platform]

/-- The first surrogates of a text that have no bytes. -/
structure EncodeFault where
  /-- How many characters precede them. -/
  offset : Nat
  /-- How many surrogates follow one another there. -/
  count : Nat
  /-- The first of them. -/
  code : Nat
  deriving DecidableEq, Repr

/-- A character stands for a surrogate. -/
def isStandIn (c : Char) : Bool := (Platform.surrogate? c).isSome

/-- The fault of a text at its first surrogate. -/
def encodeFault? (text : String) : Option EncodeFault :=
  (text.toList.findIdx? isStandIn).map fun offset =>
    let here := text.toList.drop offset
    ⟨offset, (here.takeWhile isStandIn).length, (here.head?.bind Platform.surrogate?).getD 0⟩

/-- The bytes of a text. -/
def encode (text : String) : Except EncodeFault ByteArray :=
  match encodeFault? text with
  | none => .ok text.toUTF8
  | some fault => .error fault

/-- A surrogate that stands in the name of a file for a byte that belongs to no character. -/
def isByteSurrogate (code : Nat) : Bool := 0xDC80 ≤ code && code < 0xDD00

/-- A character that the name of a file cannot hold: a surrogate that stands for no byte. -/
def isUnnamable (c : Char) : Bool := (Platform.surrogate? c).any fun code => !isByteSurrogate code

/-- How many bytes a character takes in the name of a file. -/
def charSize (c : Char) : Nat := if isStandIn c then 1 else c.utf8Size

/-- How many bytes characters take in the name of a file. -/
def charsSize : List Char → Nat
  | [] => 0
  | c :: rest => charSize c + charsSize rest

/-- How many bytes a text takes in the name of a file. -/
def byteSize (text : String) : Nat := charsSize text.toList

/-- A character as it is printed. -/
def printedChar (c : Char) : List Char :=
  match Platform.surrogate? c with
  | none => [c]
  | some code => surrogateNumber code

/-- A text as it is printed. -/
def printed (text : String) : String := String.ofList (text.toList.flatMap printedChar)

/-- A text holds no surrogate. -/
def IsEncodable (text : String) : Prop := ∀ c ∈ text.toList, isStandIn c = false

/-- Whether a text holds a surrogate can be looked up. -/
instance (text : String) : Decidable (IsEncodable text) :=
  List.decidableBAll (fun c => isStandIn c = false) text.toList

/-- A text without surrogates is encoded. -/
theorem encode_of_isEncodable {text : String} (h : IsEncodable text) :
    encode text = .ok text.toUTF8 := by
  have hnone : text.toList.findIdx? isStandIn = none := List.findIdx?_eq_none_iff.mpr h
  rw [encode, encodeFault?, hnone]
  rfl

/-- A text with a surrogate is not encoded. -/
theorem encode_of_not_isEncodable {text : String} (h : ¬IsEncodable text) :
    ∃ fault, encode text = .error fault := by
  cases hfind : text.toList.findIdx? isStandIn with
  | none => exact absurd (List.findIdx?_eq_none_iff.mp hfind) h
  | some offset =>
    rw [encode, encodeFault?, hfind]
    exact ⟨_, rfl⟩

/-- The size of characters in front of others is added to theirs. -/
theorem charsSize_append (first second : List Char) :
    charsSize (first ++ second) = charsSize first + charsSize second := by
  induction first with
  | nil => exact (Nat.zero_add _).symm
  | cons c rest ih => rw [List.cons_append, charsSize, charsSize, ih, Nat.add_assoc]

/-- The size of a text in front of another one is added to it. -/
theorem byteSize_append (first second : String) :
    byteSize (first ++ second) = byteSize first + byteSize second := by
  rw [byteSize, String.toList_append, charsSize_append]
  rfl

/-- The size of a text is that of its characters together. -/
theorem byteSize_ofList (chars : List Char) :
    byteSize (String.ofList chars) = charsSize chars := by
  rw [byteSize, String.toList_ofList]

/-- An ASCII character takes one byte. -/
theorem charSize_ascii {c : Char} (h : c.toNat < 0x80) : charSize c = 1 := by
  have hsize : c.utf8Size = 1 := by
    rw [Char.utf8Size_eq_one_iff]
    exact UInt32.le_iff_toNat_le.mpr (Nat.le_of_lt_succ h)
  simp [charSize, isStandIn, Platform.surrogate?_ascii c h, hsize]

/-- ASCII characters take one byte each. -/
theorem charsSize_ascii {chars : List Char} (h : ∀ c ∈ chars, c.toNat < 0x80) :
    charsSize chars = chars.length := by
  induction chars with
  | nil => rfl
  | cons c rest ih =>
    obtain ⟨hc, hrest⟩ := List.forall_mem_cons.mp h
    rw [charsSize, charSize_ascii hc, ih hrest, List.length_cons, Nat.add_comm]

/-- An ASCII text takes a byte for each character. -/
theorem byteSize_ascii {text : String} (h : IsAscii text) : byteSize text = text.length := by
  rw [byteSize, charsSize_ascii h, String.length_toList]

end HeaderEnum.Text
