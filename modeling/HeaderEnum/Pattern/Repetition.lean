import HeaderEnum.Pattern.Escape

/-!
# Reading a repetition

How often the part before is repeated: a star, a plus, a question mark, or bounds between braces,
and then a mark for the order of the attempts. Braces that hold no bounds stand for themselves.
-/

namespace HeaderEnum.Pattern

/-- A smallest number and a largest one, or none. -/
structure Bounds where
  /-- The smallest number of repetitions. -/
  least : Nat
  /-- The largest number of repetitions. -/
  most : Option Nat
  deriving DecidableEq, Repr

/-- The least bound that is too large. -/
def boundLimit : Nat := 0xFFFFFFFF

/-- The number that the digits of a bound denote, and none without digits. -/
def boundOf? (digits : List Char) : Reader (Option Nat) := do
  if digits.isEmpty then return none
  if digitLimit < digits.length then throw (.crash (.longNumber digits.length))
  let number := valueOf 10 digits
  if boundLimit ≤ number then throw (.crash .largeBound)
  return some number

/-- Bounds between braces, of which the opening one was just taken; nothing is taken when the braces
hold no bounds. -/
def bracedBounds? : Reader (Option Bounds) := do
  let start ← get
  if ← sees '}' then return none
  let low ← takeAll Char.isDigit
  let high ← if ← accept ',' then takeAll Char.isDigit else pure low
  if ← accept '}' then
    let least := (← boundOf? low).getD 0
    let most ← boundOf? high
    if most.any (· < least) then failAt .repeatOrder start.place
    return some ⟨least, most⟩
  else
    set start
    return none

/-- Bounds that a token begins, and none when it stands for itself. -/
def boundsOf? : Char → Reader (Option Bounds)
  | '?' => return some ⟨0, some 1⟩
  | '*' => return some ⟨0, none⟩
  | '+' => return some ⟨1, none⟩
  | _ => bracedBounds?

/-- The mark after the bounds. -/
def greedMark : Reader Greed := do
  if ← accept '?' then return .reluctant
  else if ← accept '+' then return .possessive
  else return .greedy

/-- The part that is repeated: a group without number and flags counts as what it holds. -/
def Node.repeatable : Node → Node
  | .scoped [] [] body => body
  | part => part

/-- Repeat the last of the parts read so far, the latest of which comes first. The place is that of
the first token of the bounds. -/
def repeatLast (place : Nat) (bounds : Bounds) : List Node → Reader (List Node)
  | [] => failAt .nothingToRepeat place
  | .anchor _ :: _ => failAt .nothingToRepeat place
  | .times _ _ _ _ :: _ => failAt .multipleRepeat place
  | part :: earlier => do
    return .times (← greedMark) bounds.least bounds.most part.repeatable :: earlier

end HeaderEnum.Pattern
