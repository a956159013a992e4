import HeaderEnum.Pattern.Parser
import HeaderEnum.Pattern.Repeat

/-!
# Searching for a pattern

Matching by backtracking: each part is tried in order, and whatever follows it decides whether the
attempt stands. A search succeeds when the pattern matches from some place of the text.
-/

namespace HeaderEnum.Pattern

/-- The character before a place. -/
def charBefore? (subject : Subject) (place : Nat) : Option Char :=
  if place = 0 then none else subject[place - 1]?

/-- A word begins or ends at a place. -/
def isBoundary (subject : Subject) (modes : Modes) (place : Nat) : Bool :=
  (charBefore? subject place).any (Category.holds modes · .word)
    != subject[place]?.any (Category.holds modes · .word)

/-- The place is before the last character, and that is a line feed. -/
def isBeforeLastLineFeed (subject : Subject) (place : Nat) : Bool :=
  place + 1 == subject.size && subject[place]? == some '\n'

/-- A place is what an anchor says. In an empty text no place is or is not a word boundary. -/
def Anchor.holds (subject : Subject) (modes : Modes) (place : Nat) : Anchor → Bool
  | .textStart => place == 0
  | .lineStart =>
    place == 0 || (modes.multiLine && charBefore? subject place == some '\n')
  | .textEnd => place == subject.size
  | .lineEnd =>
    place == subject.size || isBeforeLastLineFeed subject place
      || (modes.multiLine && subject[place]? == some '\n')
  | .boundary => isBoundary subject modes place
  | .noBoundary => !subject.isEmpty && !isBoundary subject modes place

/-- One character of a kind. -/
def oneChar (subject : Subject) (holds : Char → Bool) : Matcher := fun cursor next =>
  if subject[cursor.place]?.any holds then next { cursor with place := cursor.place + 1 }
  else cursor.fail

/-- Two characters are the same letter for a reference to a group. -/
def sameLetter (modes : Modes) (c d : Char) : Bool :=
  c == d || (modes.ignoreCase && smallForm modes c == smallForm modes d)

/-- A text once more, up to letter case when that makes no difference. -/
def sameText (subject : Subject) (modes : Modes) : List Char → Matcher
  | [], cursor, next => next cursor
  | c :: rest, cursor, next =>
    oneChar subject (sameLetter modes c) cursor fun after =>
      sameText subject modes rest after next

/-- The text between two places. -/
def textBetween (subject : Subject) (first last : Nat) : List Char :=
  (subject.extract first last).toList

/-- A part matches from so many characters before the place. The place stays. -/
def looking (part : Matcher) (back : Nat) : Matcher := fun cursor next =>
  if cursor.place < back then cursor.fail
  else
    match part (cursor.settledAt (cursor.place - back)) Cursor.finish with
    | .matched stop => next { cursor with foothold := stop.foothold, marks := stop.marks }
    | .failed foothold left => .failed foothold left

/-- A part does not match from so many characters before the place. The place stays. -/
def lookingAway (part : Matcher) (back : Nat) : Matcher := fun cursor next =>
  if cursor.place < back then next cursor
  else
    match part (cursor.settledAt (cursor.place - back)) Cursor.finish with
    | .matched stop => stop.fail
    | .failed foothold left => next (cursor.afterFailure foothold left)

/-- The first match of a part, for good. -/
def once (part : Matcher) : Matcher := fun cursor next =>
  match part cursor.settled Cursor.finish with
  | .matched stop => next stop
  | .failed _ left => .failed cursor.place left

/-- Match a part of a pattern, given the code point with which what follows begins, if it is a
literal. -/
def Node.matcher (subject : Subject) : Node → Modes → Option Nat → Matcher
  | .empty, _, _ => fun cursor next => next cursor
  | .never, _, _ => fun cursor _ => cursor.fail
  | .literal code, modes, _ => oneChar subject (literalHolds modes code)
  | .any, modes, _ => oneChar subject (dotHolds modes)
  | .set negated items, modes, _ => oneChar subject (setHolds modes negated items)
  | .anchor kind, modes, _ => fun cursor next =>
    if kind.holds subject modes cursor.place then next cursor else cursor.fail
  | .seq first second, modes, following => fun cursor next =>
    first.matcher subject modes ((second.lead modes).code? following) cursor fun middle =>
      second.matcher subject modes following middle next
  | .alt first others, modes, _ => fun cursor next =>
    let attempt (cursor : Cursor) : Outcome :=
      if (first.lead modes).allows subject[cursor.place]? then
        first.matcher subject modes none cursor.settled next
      else cursor.fail
    cursor.either attempt fun cursor => others.matcher subject modes none cursor next
  | .group number body, modes, _ => fun cursor next =>
    let opened := cursor.marks.note (firstEntry number) cursor.place
    body.matcher subject modes none { cursor with marks := opened } fun stop =>
      next { stop with marks := stop.marks.note (lastEntry number) stop.place }
  | .scoped on off body, modes, following =>
    body.matcher subject (modes.change on off) following
  | .reference number, modes, _ => fun cursor next =>
    match cursor.marks.group? number with
    | some (first, last) => sameText subject modes (textBetween subject first last) cursor next
    | none => cursor.fail
  | .condition number kept missing, modes, following => fun cursor next =>
    match cursor.marks.group? number with
    | some _ =>
      kept.matcher subject modes (if missing = .empty then following else none) cursor next
    | none => missing.matcher subject modes following cursor next
  | .ahead negated body, modes, _ =>
    let part := body.matcher subject modes none
    if negated then lookingAway part 0 else looking part 0
  | .behind negated width body, modes, _ =>
    let part := body.matcher subject modes none
    if negated then lookingAway part width else looking part width
  | .atomic body, modes, _ => once (body.matcher subject modes none)
  | .times greed least most body, modes, following =>
    match body.single? modes with
    | some single => SingleRepeat.matcher ⟨single, least, most⟩ subject following greed
    | none => PartRepeat.matcher ⟨body.matcher subject modes none, least, most⟩ subject greed

/-- The pattern matches from a place. -/
def matchesAt (pattern : Pattern) (subject : Subject) (place : Nat) : Bool :=
  match pattern.root.matcher subject pattern.modes none (Cursor.start place) Cursor.finish with
  | .matched _ => true
  | .failed _ _ => false

/-- A search tries a place: a pattern that begins with a literal or a set is tried wherever that
occurs, and any other one only where at most one character is missing for its least width. -/
def isTried (pattern : Pattern) (subject : Subject) (place : Nat) : Bool :=
  match pattern.root.lead pattern.modes with
  | .literal _ => true
  | .set _ => true
  | _ => place + pattern.least ≤ subject.size + 1

/-- The pattern matches somewhere in a text. A text that is shorter than the pattern's least width
is not searched. -/
def occursIn (pattern : Pattern) (text : String) : Bool :=
  let subject := text.toList.toArray
  pattern.least ≤ subject.size &&
    (List.range (subject.size + 1)).any fun place =>
      pattern.isTried subject place && pattern.matchesAt subject place

end HeaderEnum.Pattern
