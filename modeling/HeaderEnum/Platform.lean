/-!
# The platform under the program

What a run meets and does not decide. Texts of the platform may hold lone surrogates, which are code
points without a character, so a choice of characters stands for them; a choice tells a run
faithfully when its stand-ins occur in it for nothing else. Some limits of the platform are its own
as well, and so are the names of characters and the form of its notices. Whatever holds here holds on
every platform.
-/

namespace HeaderEnum

/-- A code point that is half of a pair and no character. -/
def isSurrogate (code : Nat) : Bool := 0xD800 ≤ code && code < 0xE000

/-- What the platform settles. -/
class Platform where
  /-- The character that stands for a lone surrogate. -/
  standIn : Nat → Char
  /-- The lone surrogate that a character stands for, if it stands for one. -/
  surrogate? : Char → Option Nat
  /-- A stand-in is known as such. -/
  surrogate?_standIn : ∀ code, isSurrogate code = true → surrogate? (standIn code) = some code
  /-- No ASCII character is a stand-in. -/
  surrogate?_ascii : ∀ c : Char, c.toNat < 0x80 → surrogate? c = none
  /-- How many arrays and objects of a JSON text may lie inside each other. -/
  jsonDepth : Nat
  /-- How many parts of a pattern may lie inside each other. -/
  patternDepth : String → Nat
  /-- The character of a name. -/
  characterNamed? : String → Option Char
  /-- What is printed for a notice about a pattern. -/
  noticeText : String → String

/-- The greatest number of digits of a whole number that a text is read as. -/
def digitLimit : Nat := 4300

namespace Platform

/-- The first of the private characters that stand for surrogates on a plain platform. -/
def firstStandIn : Nat := 0xFA000

/-- The private character that stands for a surrogate. -/
def privateStandIn (code : Nat) : Char := Char.ofNat (code - 0xD800 + firstStandIn)

/-- The surrogate that a private character stands for. -/
def ofPrivateStandIn? (c : Char) : Option Nat :=
  if firstStandIn ≤ c.toNat && c.toNat < firstStandIn + 0x800 then
    some (c.toNat - firstStandIn + 0xD800)
  else none

/-- A valid code point is that of its character. -/
theorem toNat_ofNat {code : Nat} (h : code.isValidChar) : (Char.ofNat code).toNat = code := by
  rw [Char.ofNat, dif_pos h]
  rfl

/-- The private character of a surrogate stands for it. -/
theorem ofPrivateStandIn?_privateStandIn (code : Nat) (h : isSurrogate code = true) :
    ofPrivateStandIn? (privateStandIn code) = some code := by
  simp only [isSurrogate, Bool.and_eq_true, decide_eq_true_eq] at h
  obtain ⟨hlow, hhigh⟩ := h
  have hvalid : (code - 0xD800 + firstStandIn).isValidChar := by
    right
    simp only [firstStandIn]
    omega
  have hrange : (firstStandIn ≤ code - 0xD800 + firstStandIn &&
      code - 0xD800 + firstStandIn < firstStandIn + 0x800) = true := by
    rw [Bool.and_eq_true, decide_eq_true_eq, decide_eq_true_eq]
    simp only [firstStandIn]
    omega
  rw [ofPrivateStandIn?, privateStandIn, toNat_ofNat hvalid, if_pos hrange, Nat.add_sub_cancel,
    Nat.sub_add_cancel hlow]

/-- An ASCII character is not private. -/
theorem ofPrivateStandIn?_ascii (c : Char) (h : c.toNat < 0x80) : ofPrivateStandIn? c = none := by
  rw [ofPrivateStandIn?, if_neg]
  rw [Bool.and_eq_true, decide_eq_true_eq, decide_eq_true_eq]
  simp only [firstStandIn]
  omega

/-- A platform on which some private characters stand for surrogates and no character is known by a
name. -/
instance (priority := low) plain : Platform where
  standIn := privateStandIn
  surrogate? := ofPrivateStandIn?
  surrogate?_standIn := ofPrivateStandIn?_privateStandIn
  surrogate?_ascii := ofPrivateStandIn?_ascii
  jsonDepth := 900
  patternDepth _ := 300
  characterNamed? _ := none
  noticeText message := message ++ "\n"

end Platform

end HeaderEnum
