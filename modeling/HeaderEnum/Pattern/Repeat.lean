import HeaderEnum.Pattern.Cursor
import HeaderEnum.Pattern.Letters

/-!
# Repeating a part

Repetition in three orders: greedy, reluctant and possessive. A part that always takes one character
is counted first and given back one by one; any other part is repeated round by round, and a round
that takes nothing is the last. Whatever follows decides whether an attempt stands, except that a
possessive repetition is never looked into again. When one of its rounds fails, a possessive
repetition goes on from the foothold of that round.
-/

namespace HeaderEnum.Pattern

/-- The text to be searched. -/
abbrev Subject := Array Char

/-- How many characters from a place on are allowed, up to a limit. -/
def runLength (subject : Subject) (holds : Char → Bool) : Nat → Nat → Nat
  | 0, _ => 0
  | limit + 1, place =>
    if subject[place]?.any holds then runLength subject holds limit (place + 1) + 1 else 0

/-- A repetition of a part that takes one character. -/
structure SingleRepeat where
  /-- What the part says about its character. -/
  single : Single
  /-- The smallest number of characters. -/
  least : Nat
  /-- The largest number of characters. -/
  most : Option Nat

namespace SingleRepeat

/-- The number of characters from a place on, up to a limit. -/
def count (rounds : SingleRepeat) (subject : Subject) (limit : Option Nat) (place : Nat) : Nat :=
  runLength subject rounds.single.holds (limit.getD subject.size) place

/-- The foothold after counting so many characters from a place on. -/
def footholdAfter (rounds : SingleRepeat) (place count : Nat) : Nat :=
  if rounds.single.isMultiform then place + count else place

/-- Take so many characters at most, if there are enough. -/
def take (rounds : SingleRepeat) (subject : Subject) (limit : Option Nat) (cursor : Cursor)
    (next : Nat → Cursor → Outcome) : Outcome :=
  if subject.size < cursor.place + rounds.least then cursor.fail
  else
    let count := rounds.count subject limit cursor.place
    let counted := { cursor with foothold := rounds.footholdAfter cursor.place count }
    if count < rounds.least then counted.fail else next count counted

/-- Go on after taking some more characters than needed, or else with fewer. A place that lacks the
code point with which the rest begins is passed over. -/
def giveBack (subject : Subject) (following : Option Nat) (least : Nat)
    (next : Cursor → Outcome) : Nat → Cursor → Outcome
  | more, cursor =>
    let place := cursor.place + least + more
    let attempt : Cursor → Outcome := fun cursor =>
      if following.all fun code => subject[place]?.any (·.toNat == code) then
        next (cursor.settledAt place)
      else cursor.fail
    cursor.either attempt fun cursor =>
      match more with
      | 0 => cursor.fail
      | fewer + 1 => giveBack subject following least next fewer cursor

/-- As many characters as possible first. -/
def greedy (rounds : SingleRepeat) (subject : Subject) (following : Option Nat) : Matcher :=
  fun cursor next =>
    rounds.take subject rounds.most cursor fun count counted =>
      giveBack subject following rounds.least next (count - rounds.least) counted

/-- Go on at once, or else after one character more; the bound limits the characters. -/
def takeMore (rounds : SingleRepeat) (subject : Subject) (next : Cursor → Outcome) :
    Nat → Nat → Cursor → Outcome
  | 0, _, cursor => cursor.fail
  | bound + 1, count, cursor =>
    if rounds.most.any (· < count) then cursor.fail
    else
      cursor.either (fun cursor => next cursor.settled) fun cursor =>
        let one := rounds.count subject (some 1) cursor.place
        let foothold := rounds.footholdAfter cursor.place one
        if one = 0 then { cursor with foothold := foothold }.fail
        else
          takeMore rounds subject next bound (count + 1)
            { cursor with place := cursor.place + 1, foothold := foothold }

/-- As few characters as possible first. -/
def reluctant (rounds : SingleRepeat) (subject : Subject) : Matcher := fun cursor next =>
  rounds.take subject (some rounds.least) cursor fun count counted =>
    rounds.takeMore subject next (subject.size + 1) count
      { counted with place := counted.place + count }

/-- As many characters as possible, for good. -/
def possessive (rounds : SingleRepeat) (subject : Subject) : Matcher := fun cursor next =>
  rounds.take subject rounds.most cursor fun count counted =>
    next { counted with place := counted.place + count }

/-- Repeat in an order of attempts. -/
def matcher (rounds : SingleRepeat) (subject : Subject) (following : Option Nat) :
    Greed → Matcher
  | .greedy => rounds.greedy subject following
  | .reluctant => rounds.reluctant subject
  | .possessive => rounds.possessive subject

end SingleRepeat

/-- A repetition of any part. -/
structure PartRepeat where
  /-- How the part matches. -/
  part : Matcher
  /-- The smallest number of rounds. -/
  least : Nat
  /-- The largest number of rounds. -/
  most : Option Nat

namespace PartRepeat

/-- Another round may be tried: the bound leaves room and the last round took something. -/
def mayGoOn (rounds : PartRepeat) (count : Nat) (last : Option Nat) (cursor : Cursor) : Bool :=
  rounds.most.all (count < ·) && last != some cursor.place

/-- One round, after which a matcher goes on. -/
def round (rounds : PartRepeat) (cursor : Cursor) (next : Cursor → Outcome) : Outcome :=
  cursor.orSettle fun cursor => rounds.part { cursor with looping := true } next

/-- Leave the repetition. -/
def leave (looping : Bool) (next : Cursor → Outcome) (cursor : Cursor) : Outcome :=
  next { cursor with looping := looping }

/-- As many rounds as possible first, after so many rounds, of which the last began at a place. -/
def greedy (rounds : PartRepeat) (looping : Bool) : Nat → Nat → Option Nat → Matcher
  | 0, _, _ => fun cursor _ => cursor.fail
  | bound + 1, count, last => fun cursor next =>
    let here := cursor.settled
    if count < rounds.least then
      rounds.round here fun stop => greedy rounds looping bound (count + 1) last stop next
    else
      let onward (cursor : Cursor) : Outcome := cursor.orSettle (leave looping next)
      if rounds.mayGoOn count last here then
        match rounds.round here fun stop =>
            greedy rounds looping bound (count + 1) (some here.place) stop next with
        | .matched stop => .matched stop
        | .failed _ _ => onward here
      else onward here

/-- As few rounds as possible first, after so many rounds, of which the last began at a place. -/
def reluctant (rounds : PartRepeat) (looping : Bool) : Nat → Nat → Option Nat → Matcher
  | 0, _, _ => fun cursor _ => cursor.fail
  | bound + 1, count, last => fun cursor next =>
    let here := cursor.settled
    if count < rounds.least then
      rounds.round here fun stop => reluctant rounds looping bound (count + 1) last stop next
    else
      { here with looping := looping }.either next fun left =>
        let here := left.settled
        if rounds.mayGoOn count last here then
          rounds.round here fun stop =>
            reluctant rounds looping bound (count + 1) (some here.place) stop next
        else here.fail

/-- As many rounds as possible for good: the cursor after them, or the failure of a round that is
needed. -/
def possessive (rounds : PartRepeat) (origin : Nat) : Nat → Nat → Option Nat → Cursor → Outcome
  | 0, _, _, cursor => cursor.fail
  | bound + 1, count, last, cursor =>
    let here := cursor.settled
    if count < rounds.least then
      match rounds.part here Cursor.finish with
      | .matched stop => possessive rounds origin bound (count + 1) last stop
      | .failed _ left => .failed origin left
    else if rounds.mayGoOn count last here then
      match rounds.part here Cursor.finish with
      | .matched stop => possessive rounds origin bound (count + 1) (some here.place) stop
      | .failed foothold _ => .matched (here.settledAt foothold)
    else .matched here

/-- Repeat in an order of attempts. Each round but the needed ones and the last takes a character,
which bounds their number. -/
def matcher (rounds : PartRepeat) (subject : Subject) (greed : Greed) : Matcher :=
  fun cursor next =>
    let bound := rounds.least + subject.size + 3
    match greed with
    | .greedy => rounds.greedy cursor.looping bound 0 none cursor next
    | .reluctant => rounds.reluctant cursor.looping bound 0 none cursor next
    | .possessive =>
      match rounds.possessive cursor.place bound 0 none cursor with
      | .matched stop => next stop
      | .failed foothold left => .failed foothold left

end PartRepeat

end HeaderEnum.Pattern
