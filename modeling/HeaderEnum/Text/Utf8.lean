import HeaderEnum.Text.Quoted

/-!
# Decoding UTF-8

Bytes as text, or the first fault in them: the bytes that belong to it, from its lead byte on, and
what is wrong with them.
-/

namespace HeaderEnum.Text

/-- What is wrong with bytes that are no character. -/
inductive Utf8Problem where
  /-- No character begins with this byte. -/
  | invalidStart
  /-- A byte that cannot go on with the character comes next. -/
  | invalidContinuation
  /-- The bytes end inside a character. -/
  | unexpectedEnd
  deriving DecidableEq, Repr

/-- The first bytes that are no character. -/
structure Utf8Fault where
  /-- How many bytes precede them. -/
  offset : Nat
  /-- How many they are. -/
  count : Nat
  /-- The first of them. -/
  lead : UInt8
  /-- What is wrong. -/
  problem : Utf8Problem
  deriving DecidableEq, Repr

/-- The wording of a problem. -/
def Utf8Problem.message : Utf8Problem → String
  | .invalidStart => "invalid start byte"
  | .invalidContinuation => "invalid continuation byte"
  | .unexpectedEnd => "unexpected end of data"

/-- The wording of a fault. -/
def Utf8Fault.message (fault : Utf8Fault) : String :=
  let bytes :=
    if fault.count = 1 then
      "byte 0x" ++ String.ofList (hexDigits 2 fault.lead.toNat) ++ " in position "
        ++ toString fault.offset
    else
      "bytes in position " ++ toString fault.offset ++ "-"
        ++ toString (fault.offset + fault.count - 1)
  "'utf-8' codec can't decode " ++ bytes ++ ": " ++ fault.problem.message

/-- Any byte that may go on with a character. -/
def continuation : Nat × Nat := (0x80, 0xBF)

/-- The ranges of the bytes that follow a lead byte, and none for a byte that leads nothing. -/
def continuations? (lead : UInt8) : Option (List (Nat × Nat)) :=
  let code := lead.toNat
  if code < 0x80 then some []
  else if code < 0xC2 then none
  else if code < 0xE0 then some [continuation]
  else if code = 0xE0 then some [(0xA0, 0xBF), continuation]
  else if code = 0xED then some [(0x80, 0x9F), continuation]
  else if code < 0xF0 then some [continuation, continuation]
  else if code = 0xF0 then some [(0x90, 0xBF), continuation, continuation]
  else if code < 0xF4 then some [continuation, continuation, continuation]
  else if code = 0xF4 then some [(0x80, 0x8F), continuation, continuation]
  else none

/-- How many bytes at the front lie in the given ranges one by one. -/
def fittingCount : List (Nat × Nat) → List UInt8 → Nat
  | (low, high) :: ranges, byte :: bytes =>
    if low ≤ byte.toNat && byte.toNat ≤ high then 1 + fittingCount ranges bytes else 0
  | _, _ => 0

/-- The first fault of bytes that follow so many others, when so many at the front belong to a
character already. -/
def utf8FaultFrom? : Nat → Nat → List UInt8 → Option Utf8Fault
  | _, _, [] => none
  | offset, skipped + 1, _ :: rest => utf8FaultFrom? (offset + 1) skipped rest
  | offset, 0, lead :: rest =>
    match continuations? lead with
    | none => some ⟨offset, 1, lead, .invalidStart⟩
    | some ranges =>
      let fitting := fittingCount ranges rest
      if fitting = ranges.length then utf8FaultFrom? (offset + 1) fitting rest
      else if fitting = rest.length then some ⟨offset, 1 + fitting, lead, .unexpectedEnd⟩
      else some ⟨offset, 1 + fitting, lead, .invalidContinuation⟩

/-- The text that bytes encode. -/
def decodeUtf8 (bytes : ByteArray) : Except Utf8Fault String :=
  match String.fromUTF8? bytes with
  | some text => .ok text
  | none => .error ((utf8FaultFrom? 0 0 bytes.toList).getD ⟨0, 0, 0, .unexpectedEnd⟩)

end HeaderEnum.Text
