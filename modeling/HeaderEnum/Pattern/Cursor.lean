/-!
# Places of a match attempt

What a match attempt knows at a place of the text, and what is left of it when it fails. An attempt
leaves two traces that later ones can meet: the foothold, from which a possessive repetition goes on
after a failed round, and the marks of groups, of which a failure takes back only those that are
new unless some repetition is under way.
-/

namespace HeaderEnum.Pattern

/-- The first and last places of the groups, by twice their number: the entry is missing or empty
when the group has no such place. -/
abbrev Marks := List (Option Nat)

/-- Note a place; entries before it that are missing become empty. -/
def Marks.note (marks : Marks) (entry place : Nat) : Marks :=
  if entry < marks.length then marks.set entry (some place)
  else marks ++ List.replicate (entry - marks.length) none ++ [some place]

/-- The entry for the first place of a group. -/
def firstEntry (number : Nat) : Nat := 2 * (number - 1)

/-- The entry for the last place of a group. -/
def lastEntry (number : Nat) : Nat := 2 * (number - 1) + 1

/-- The first and last places of a group that has both in this order. -/
def Marks.group? (marks : Marks) (number : Nat) : Option (Nat × Nat) :=
  match marks[firstEntry number]?, marks[lastEntry number]? with
  | some (some first), some (some last) => if first ≤ last then some (first, last) else none
  | _, _ => none

/-- Where a match attempt stands. -/
structure Cursor where
  /-- Characters before the place that is looked at. -/
  place : Nat
  /-- The place where a step of several characters last began or ended. -/
  foothold : Nat
  /-- The marks of the groups. -/
  marks : Marks
  /-- Some repetition is under way. -/
  looping : Bool
  deriving DecidableEq, Repr

/-- How a match attempt ends. -/
inductive Outcome where
  /-- It succeeds here. -/
  | matched (stop : Cursor)
  /-- It fails, and this is left of it. -/
  | failed (foothold : Nat) (marks : Marks)
  deriving DecidableEq, Repr

/-- A way to match from a place and go on with what follows. -/
abbrev Matcher := Cursor → (Cursor → Outcome) → Outcome

namespace Cursor

/-- The start of an attempt at a place. -/
def start (place : Nat) : Cursor := ⟨place, place, [], false⟩

/-- The attempt fails here. -/
def fail (cursor : Cursor) : Outcome := .failed cursor.foothold cursor.marks

/-- The place becomes the foothold. -/
def settled (cursor : Cursor) : Cursor := { cursor with foothold := cursor.place }

/-- The cursor at a place that is also the foothold. -/
def settledAt (cursor : Cursor) (place : Nat) : Cursor :=
  { cursor with place := place, foothold := place }

/-- The part that was to be matched ends here. -/
def finish (cursor : Cursor) : Outcome := .matched cursor.settled

/-- The marks of groups after an attempt from here has failed. -/
def marksAfter (cursor : Cursor) (left : Marks) : Marks :=
  if cursor.looping then cursor.marks else left.take cursor.marks.length

/-- The cursor for another attempt from here after one has failed. -/
def afterFailure (cursor : Cursor) (foothold : Nat) (left : Marks) : Cursor :=
  { cursor with foothold := foothold, marks := cursor.marksAfter left }

/-- Try one way and, if it fails, another. -/
def either (cursor : Cursor) (first second : Cursor → Outcome) : Outcome :=
  match first cursor with
  | .matched stop => .matched stop
  | .failed foothold left => second (cursor.afterFailure foothold left)

/-- Try a way that leaves this place as the foothold when it fails. -/
def orSettle (cursor : Cursor) (way : Cursor → Outcome) : Outcome :=
  match way cursor with
  | .matched stop => .matched stop
  | .failed _ left => .failed cursor.place left

end Cursor

end HeaderEnum.Pattern
