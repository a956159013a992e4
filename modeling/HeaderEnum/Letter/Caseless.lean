import HeaderEnum.Letter.Case

/-!
# Letters regardless of case

When two characters are one letter: their small forms are the same, or share a capital as the two
small sigmas do. Only simple small forms count, so a letter whose capital needs several characters
has no others for companions.
-/

namespace HeaderEnum.Letter

/-- The groups of small letters that share a capital. -/
def kindredGroups : List (List Nat) :=
  [[0x0069, 0x0131], [0x0073, 0x017F], [0x00B5, 0x03BC], [0x0345, 0x03B9, 0x1FBE],
  [0x0390, 0x1FD3], [0x03B0, 0x1FE3], [0x03B2, 0x03D0], [0x03B5, 0x03F5], [0x03B8, 0x03D1],
  [0x03BA, 0x03F0], [0x03C0, 0x03D6], [0x03C1, 0x03F1], [0x03C2, 0x03C3], [0x03C6, 0x03D5],
  [0x0432, 0x1C80], [0x0434, 0x1C81], [0x043E, 0x1C82], [0x0441, 0x1C83],
  [0x0442, 0x1C84, 0x1C85], [0x044A, 0x1C86], [0x0463, 0x1C87], [0x1C88, 0xA64B],
  [0x1E61, 0x1E9B], [0xFB05, 0xFB06]]

/-- The small letters that share a capital with a small letter, which is one of them. -/
def kindred (c : Char) : List Char :=
  match kindredGroups.find? (·.contains c.toNat) with
  | some codes => codes.map Char.ofNat
  | none => [c]

/-- The first character of the capital form. -/
def firstCapital (c : Char) : Char := (upperChar c).headD c

/-- A character has another form in the other case. -/
def hasCase (c : Char) : Bool := lowerSimple c != c || firstCapital c != c

/-- A code point lies between two others. -/
def isWithin (first last code : Nat) : Bool := first ≤ code && code ≤ last

/-- Some character between two code points has the given small form within ASCII. -/
def isAsciiSmallFormWithin (first last : Nat) (c : Char) : Bool :=
  (isWithin first last c.toNat && !c.isUpper)
    || (c.isLower && isWithin first last c.toUpper.toNat)

/-- Some character between two code points has the given small form. -/
def isSmallFormWithin (first last : Nat) (c : Char) : Bool :=
  (isWithin first last c.toNat && lowerSimple c == c)
    || (c.isLower && isWithin first last c.toUpper.toNat)
    || (c == 'i' && isWithin first last 0x130)
    || lowerRows.any fun (low, high, step, shift) =>
        let code : Int := c.toNat - shift
        isWithin low high code.toNat && (code.toNat - low) % step == 0
          && isWithin first last code.toNat

/-- Some code point of a row lies between two others. -/
def rowMeets (first last : Nat) : Nat × Nat × Nat × Int → Bool
  | (low, high, step, _) =>
    let steps := (first - low + step - 1) / step
    low + steps * step ≤ min high last

/-- Some ASCII letter lies between two code points. -/
def hasAsciiCaseWithin (first last : Nat) : Bool :=
  (first ≤ 'Z'.toNat && 'A'.toNat ≤ last) || (first ≤ 'z'.toNat && 'a'.toNat ≤ last)

/-- Some character between two code points has another form in the other case. -/
def hasCaseWithin (first last : Nat) : Bool :=
  hasAsciiCaseWithin first last || isWithin first last 0x130
    || lowerRows.any (rowMeets first last) || upperRows.any (rowMeets first last)
    || upperSequences.any fun (code, _) => isWithin first last code

end HeaderEnum.Letter
