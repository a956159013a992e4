import HeaderEnum.Json.Scalar

/-!
# Reading a JSON text

The value of a whole text, or the first problem in it with its line. Of two members with one name
the later value counts, at the place of the earlier one. Arrays and objects may lie inside each other
only as deep as the platform follows.
-/

namespace HeaderEnum.Json

/-- Words that are values. -/
def words : List (List Char × Value) :=
  [("null".toList, .null), ("true".toList, .bool true), ("false".toList, .bool false),
    ("NaN".toList, .unbounded), ("Infinity".toList, .unbounded), ("-Infinity".toList, .unbounded)]

/-- A word or a number at the front of a text. -/
def readScalar (text : List Char) : Read Value :=
  match words.find? fun (word, _) => word.isPrefixOf text with
  | some (word, value) => .ok (value, text.drop word.length)
  | none => (number? text).getD (stopped .expectedValue text)

section

variable [Platform]

mutual

/-- A value at the front of a text, with room for so many arrays and objects inside each other. Each
step inward or onward takes one from the bound. -/
def readValue : Nat → Nat → List Char → Read Value
  | 0, _, text => stopped .expectedValue text
  | bound + 1, room, text =>
    match text with
    | '"' :: _ => (readText text).map fun (value, rest) => (.text value, rest)
    | '\x7b' :: rest =>
      match room with
      | 0 => .error (.crash (.deepNesting .objects))
      | room + 1 =>
        match skipBlanks rest with
        | '\x7d' :: rest => .ok (.object [], rest)
        | rest => readMembers bound room [] rest
    | '[' :: rest =>
      match room with
      | 0 => .error (.crash (.deepNesting .arrays))
      | room + 1 =>
        match skipBlanks rest with
        | ']' :: rest => .ok (.array [], rest)
        | rest => readItems bound room [] rest
    | _ => readScalar text

/-- The values of an array from a value on, after those read so far. -/
def readItems : Nat → Nat → List Value → List Char → Read Value
  | 0, _, _, text => stopped .expectedValue text
  | bound + 1, room, earlier, text =>
    match readValue bound room text with
    | .error stop => .error stop
    | .ok (value, rest) =>
      match skipBlanks rest with
      | ']' :: rest => .ok (.array (earlier ++ [value]), rest)
      | ',' :: rest => readItems bound room (earlier ++ [value]) (skipBlanks rest)
      | rest => stopped .expectedComma rest

/-- The members of an object from a name on, after those read so far. -/
def readMembers : Nat → Nat → List (String × Value) → List Char → Read Value
  | 0, _, _, text => stopped .expectedName text
  | bound + 1, room, earlier, text =>
    match text with
    | '"' :: _ =>
      match readText text with
      | .error stop => .error stop
      | .ok (name, rest) =>
        match skipBlanks rest with
        | ':' :: rest =>
          match readValue bound room (skipBlanks rest) with
          | .error stop => .error stop
          | .ok (value, rest) =>
            match skipBlanks rest with
            | '\x7d' :: rest => .ok (.object (insertMember name value earlier), rest)
            | ',' :: rest =>
              readMembers bound room (insertMember name value earlier) (skipBlanks rest)
            | rest => stopped .expectedComma rest
        | rest => stopped .expectedColon rest
    | _ => stopped .expectedName text

end

/-- A value with nothing but blanks around it. -/
def readWhole (text : List Char) : Except (Halt Stop) Value :=
  match text with
  | '\uFEFF' :: _ => .error (.fault ⟨.byteOrderMark, text⟩)
  | _ =>
    match readValue (2 * text.length + 3) Platform.jsonDepth (skipBlanks text) with
    | .error stop => .error stop
    | .ok (value, rest) =>
      match skipBlanks rest with
      | [] => .ok value
      | rest => .error (.fault ⟨.extraData, rest⟩)

end

/-- A problem and its line. -/
structure Fault where
  /-- What is wrong. -/
  problem : Problem
  /-- The line of its place, counted from one. -/
  line : Nat
  deriving DecidableEq, Repr

/-- The wording of a fault. -/
def Fault.message (fault : Fault) : String :=
  fault.problem.message ++ " (line " ++ toString fault.line ++ ")"

/-- The value that a text denotes. -/
def parse [Platform] (text : String) : Except (Halt Fault) Value :=
  match readWhole text.toList with
  | .ok value => .ok value
  | .error (.fault stop) =>
    .error (.fault ⟨stop.problem, 1 + (text.toList.count '\n' - stop.rest.count '\n')⟩)
  | .error (.crash crash) => .error (.crash crash)

end HeaderEnum.Json
