/-!
# Search patterns

The structure of a search pattern: single characters and character sets, anchors, groups,
references to them, looks ahead and behind, conditions, and repetition. A width says how many
characters a part can match.
-/

namespace HeaderEnum.Pattern

/-- A switch that changes what a pattern matches or how it is read. -/
inductive Flag where
  /-- Letter case makes no difference. -/
  | ignoreCase
  /-- Line anchors hold at every line. -/
  | multiLine
  /-- The dot also stands for a line feed. -/
  | dotAll
  /-- Blanks and comments inside the pattern are skipped. -/
  | verbose
  /-- Classes and letter case are those of ASCII. -/
  | ascii
  /-- Classes and letter case are those of Unicode. -/
  | unicode
  /-- Accepted without effect. -/
  | template
  deriving DecidableEq, Repr

/-- The flags that decide what a pattern matches. -/
structure Modes where
  /-- Letter case makes no difference. -/
  ignoreCase : Bool := false
  /-- Line anchors hold at every line. -/
  multiLine : Bool := false
  /-- The dot also stands for a line feed. -/
  dotAll : Bool := false
  /-- Classes and letter case are those of ASCII. -/
  ascii : Bool := false
  deriving DecidableEq, Repr

/-- Turn flags on and off. -/
def Modes.change (modes : Modes) (on off : List Flag) : Modes where
  ignoreCase := (modes.ignoreCase || on.contains .ignoreCase) && !off.contains .ignoreCase
  multiLine := (modes.multiLine || on.contains .multiLine) && !off.contains .multiLine
  dotAll := (modes.dotAll || on.contains .dotAll) && !off.contains .dotAll
  ascii := on.contains .ascii || (modes.ascii && !on.contains .unicode)

/-- A class of characters. -/
inductive Category where
  /-- Decimal digits. -/
  | digit
  /-- Blanks. -/
  | space
  /-- Word characters. -/
  | word
  deriving DecidableEq, Repr

/-- A member of a character set. -/
inductive SetItem where
  /-- One code point. -/
  | code (code : Nat)
  /-- All code points between two. -/
  | range (first last : Nat)
  /-- A class, or all characters outside it. -/
  | category (kind : Category) (negated : Bool)
  deriving DecidableEq, Repr

/-- A condition on a place in the text. -/
inductive Anchor where
  /-- Start of the text or, in lines, of a line. -/
  | lineStart
  /-- Start of the text. -/
  | textStart
  /-- End of the text, also before a last line feed or, in lines, before any. -/
  | lineEnd
  /-- End of the text. -/
  | textEnd
  /-- A word begins or ends here. -/
  | boundary
  /-- No word begins or ends here. -/
  | noBoundary
  deriving DecidableEq, Repr

/-- The order in which a repetition tries its counts. -/
inductive Greed where
  /-- As often as possible first. -/
  | greedy
  /-- As rarely as possible first. -/
  | reluctant
  /-- As often as possible, and nothing is given back. -/
  | possessive
  deriving DecidableEq, Repr

/-- A part of a pattern. -/
inductive Node where
  /-- Nothing, which always matches. -/
  | empty
  /-- No alternative is left, which never matches. -/
  | never
  /-- One code point. -/
  | literal (code : Nat)
  /-- Any character, as a dot says. -/
  | any
  /-- A character inside or, if negated, outside a set. -/
  | set (negated : Bool) (items : List SetItem)
  /-- A place. -/
  | anchor (kind : Anchor)
  /-- One part, then another. -/
  | seq (first second : Node)
  /-- One alternative, or else the others, of which the last is `never`. -/
  | alt (first others : Node)
  /-- A group with a number, whose text is kept. -/
  | group (number : Nat) (body : Node)
  /-- A part under changed flags. -/
  | scoped (on off : List Flag) (body : Node)
  /-- The text kept for a group. -/
  | reference (number : Nat)
  /-- One part if the text of a group is kept, or else another. -/
  | condition (number : Nat) (kept missing : Node)
  /-- What follows matches or, if negated, does not. -/
  | ahead (negated : Bool) (body : Node)
  /-- What precedes, so many characters wide, matches or, if negated, does not. -/
  | behind (negated : Bool) (width : Nat) (body : Node)
  /-- A part whose first match is final. -/
  | atomic (body : Node)
  /-- A part so many times, with no upper bound for none. -/
  | times (greed : Greed) (least : Nat) (most : Option Nat) (body : Node)
  deriving DecidableEq, Repr

/-- The parts of a list one after another. -/
def Node.ofList : List Node → Node
  | [] => .empty
  | [last] => last
  | first :: rest => .seq first (Node.ofList rest)

/-- The parts that stand one after another in a part. -/
def Node.parts : Node → List Node
  | .empty => []
  | .seq first second => first.parts ++ second.parts
  | part => [part]

/-- How many characters a part can match, with no upper bound for none. -/
structure Width where
  /-- The smallest number. -/
  least : Nat
  /-- The largest number. -/
  most : Option Nat
  deriving DecidableEq, Repr

namespace Width

/-- Exactly so many characters. -/
def exactly (count : Nat) : Width := ⟨count, some count⟩

/-- Two parts one after another. -/
def plus (first second : Width) : Width where
  least := first.least + second.least
  most := match first.most, second.most with
    | some a, some b => some (a + b)
    | _, _ => none

/-- One of two parts. -/
def or (first second : Width) : Width where
  least := min first.least second.least
  most := match first.most, second.most with
    | some a, some b => some (max a b)
    | _, _ => none

/-- A repeated part. -/
def times (width : Width) (least : Nat) (most : Option Nat) : Width where
  least := width.least * least
  most := match width.most, most with
    | some a, some b => some (a * b)
    | some 0, none => some 0
    | none, some 0 => some 0
    | _, _ => none

/-- The smallest number of characters that counts as no bound. -/
def limit : Nat := 0xFFFFFFFF

/-- The number of characters, if it is fixed and counts as a bound. -/
def fixed? (width : Width) : Option Nat :=
  if width.most = some width.least && width.least < limit then some width.least else none

end Width

/-- The width of a part, given the widths of the groups. -/
def Node.width (groups : Nat → Width) : Node → Width
  | .empty => .exactly 0
  | .never => .exactly 0
  | .literal _ => .exactly 1
  | .any => .exactly 1
  | .set _ _ => .exactly 1
  | .anchor _ => .exactly 0
  | .seq first second => (first.width groups).plus (second.width groups)
  | .alt first .never => first.width groups
  | .alt first others => (first.width groups).or (others.width groups)
  | .group _ body => body.width groups
  | .scoped _ _ body => body.width groups
  | .reference number => groups number
  | .condition _ kept missing => (kept.width groups).or (missing.width groups)
  | .ahead _ _ => .exactly 0
  | .behind _ _ _ => .exactly 0
  | .atomic body => body.width groups
  | .times _ least most body => (body.width groups).times least most

end HeaderEnum.Pattern
