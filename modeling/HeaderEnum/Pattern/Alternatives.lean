import HeaderEnum.Pattern.Node

/-!
# Alternatives

How the alternatives of a group become one part. Plain parts that all of them begin with are moved
before them, and alternatives of one character each become a character set. This matters to a
search, since a set reads letter case in its own way and is repeated character by character.
-/

namespace HeaderEnum.Pattern

/-- A part without parts of its own. Only such parts are compared with each other. -/
def Node.isPlain : Node → Bool
  | .literal _ => true
  | .any => true
  | .set _ _ => true
  | .anchor _ => true
  | .reference _ => true
  | _ => false

/-- The plain parts that two lists begin with. -/
def commonStart : List Node → List Node → List Node
  | first :: rest, other :: others =>
    if first.isPlain && first == other then first :: commonStart rest others else []
  | _, _ => []

/-- The members of a set that stands for one alternative. -/
def charactersOf? : List Node → Option (List SetItem)
  | [.literal code] => some [.code code]
  | [.set false items] => some items
  | _ => none

/-- The members of a set that stands for all alternatives. -/
def charactersOfAll? : List (List Node) → Option (List SetItem)
  | [] => some []
  | first :: others =>
    match charactersOf? first, charactersOfAll? others with
    | some items, some more => some (items ++ more)
    | _, _ => none

/-- The members of a set without repetitions, in the order of their first places. -/
def distinctItems : List SetItem → List SetItem
  | [] => []
  | item :: rest => item :: (distinctItems rest).filter (· != item)

/-- One of several lists of parts. -/
def Node.oneOf : List (List Node) → Node
  | [] => .never
  | first :: others => .alt (.ofList first) (Node.oneOf others)

/-- The parts that stand for one of several lists of parts. -/
def partsOfAlternatives : List (List Node) → List Node
  | [] => []
  | [only] => only
  | first :: others =>
    let start := others.foldl commonStart first
    let rests := (first :: others).map (·.drop start.length)
    match charactersOfAll? rests with
    | some items => start ++ [.set false (distinctItems items)]
    | none => start ++ [.oneOf rests]

end HeaderEnum.Pattern
