import HeaderEnum.Letter.CaseTable
import HeaderEnum.Letter.CasedTable
import HeaderEnum.Letter.Class

/-!
# Upper and lower case

Full case mappings of characters and texts. One character may become several, and the capital
letter sigma has two small forms, of which the one for the end of a word is chosen by its
neighbours. Locale-dependent mappings are not covered.
-/

namespace HeaderEnum.Letter

/-- The shift of the row that holds the code point, and zero when none does. -/
def shiftOf (rows : List (Nat × Nat × Nat × Int)) (code : Nat) : Int :=
  match rows.find? fun (first, last, step, _) =>
      first ≤ code && code ≤ last && (code - first) % step == 0 with
  | some (_, _, _, shift) => shift
  | none => 0

/-- Move a character by the shift of its row. -/
def shifted (rows : List (Nat × Nat × Nat × Int)) (c : Char) : Char :=
  Char.ofNat (c.toNat + shiftOf rows c.toNat).toNat

/-- The full capital form of one character. -/
def upperChar (c : Char) : List Char :=
  if isAscii c then [c.toUpper]
  else match upperSequences.lookup c.toNat with
    | some codes => codes.map Char.ofNat
    | none => [shifted upperRows c]

/-- The small form of one character, as one character: U+0130 becomes a plain `i`. -/
def lowerSimple (c : Char) : Char :=
  if isAscii c then c.toLower
  else if c.toNat = 0x130 then 'i'
  else shifted lowerRows c

/-- The full small form of one character outside any word. -/
def lowerChar (c : Char) : List Char :=
  if c.toNat = 0x130 then ['i', '\u0307'] else [lowerSimple c]

/-- Letters that have a case. -/
def isCased (c : Char) : Bool :=
  if isAscii c then c.isAlpha else inRanges casedRanges c.toNat

/-- Characters to look past when one searches for a neighbouring cased letter. -/
def isCaseIgnorable (c : Char) : Bool :=
  if isAscii c then ['\x27', '.', ':', '^', '\x60'].contains c
  else inRanges caseIgnorableRanges c.toNat

/-- The nearest character that is not case-ignorable exists and is cased. -/
def meetsCased (neighbours : List Char) : Bool :=
  match neighbours.dropWhile isCaseIgnorable with
  | [] => false
  | c :: _ => isCased c

/-- The full small form of a character between the text before it, nearest first, and after it. -/
def lowerBetween (before : List Char) (c : Char) (after : List Char) : List Char :=
  if c = 'Σ' then [if meetsCased before && !meetsCased after then 'ς' else 'σ'] else lowerChar c

/-- Lower a text that follows the given characters, nearest first. -/
def lowerAfter : List Char → List Char → List Char
  | _, [] => []
  | before, c :: after => lowerBetween before c after ++ lowerAfter (c :: before) after

/-- The full small form of a text. -/
def lower (text : List Char) : List Char := lowerAfter [] text

/-- The full capital form of a text. -/
def upper (text : List Char) : List Char := text.flatMap upperChar

/-- A capital first character and small ones after it, which are lowered as a text of their own. -/
def capitalized : List Char → List Char
  | [] => []
  | c :: rest => upperChar c ++ lower rest

end HeaderEnum.Letter
