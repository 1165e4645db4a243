/-
Where bytes stop being UTF-8. The first byte of a character says how many
bytes follow it and in which ranges they lie; the ranges of the second
byte keep out overlong forms, surrogates and numbers beyond the last
code point. A fault takes in the bytes of its character that were still
right, so that reading could go on behind it.
-/
import KbDocs.Text.Quoted

namespace KbDocs.Text

/-- What is wrong with bytes that are not UTF-8. -/
inductive Utf8Reason where
  /-- No character starts with the byte. -/
  | badStart
  /-- The next byte does not go on with the character. -/
  | badContinuation
  /-- The bytes end within a character. -/
  | endedEarly
deriving DecidableEq

/-- The first fault of some bytes: how many bytes stand before it, and
the bytes at fault. -/
structure Utf8Fault where
  position : Nat
  bytes : List UInt8
  reason : Utf8Reason
deriving DecidableEq

/-- The ranges of the bytes after a first byte, if a character starts
with it. -/
def tailRanges? (b : UInt8) : Option (List (UInt8 × UInt8)) :=
  let any : UInt8 × UInt8 := (0x80, 0xBF)
  if b < 0x80 then some []
  else if b < 0xC2 then none
  else if b < 0xE0 then some [any]
  else if b = 0xE0 then some [(0xA0, 0xBF), any]
  else if b = 0xED then some [(0x80, 0x9F), any]
  else if b < 0xF0 then some [any, any]
  else if b = 0xF0 then some [(0x90, 0xBF), any, any]
  else if b < 0xF4 then some [any, any, any]
  else if b = 0xF4 then some [(0x80, 0x8F), any, any]
  else none

/-- How many bytes lie in their ranges before one does not, and why that
one does not; nothing if all do. -/
def brokenTail? : List (UInt8 × UInt8) → List UInt8 → Option (Nat × Utf8Reason)
  | [], _ => none
  | _ :: _, [] => some (0, .endedEarly)
  | (low, high) :: ranges, b :: rest =>
      if low ≤ b && b ≤ high then
        (brokenTail? ranges rest).map fun (n, reason) => (n + 1, reason)
      else some (0, .badContinuation)

/-- The first fault of some bytes behind others. -/
def utf8FaultFrom? (position : Nat) (bytes : List UInt8) : Option Utf8Fault :=
  match bytes with
  | [] => none
  | b :: rest =>
      match tailRanges? b with
      | none => some ⟨position, [b], .badStart⟩
      | some ranges =>
          match brokenTail? ranges rest with
          | some (n, reason) => some ⟨position, b :: rest.take n, reason⟩
          | none =>
              utf8FaultFrom? (position + 1 + ranges.length) (rest.drop ranges.length)
termination_by bytes.length
decreasing_by simp only [List.length_cons, List.length_drop]; omega

/-- The first fault of some bytes, if they are not UTF-8. -/
def utf8Fault? (bytes : List UInt8) : Option Utf8Fault :=
  utf8FaultFrom? 0 bytes

/-- The wording of a reason. -/
def Utf8Reason.message : Utf8Reason → String
  | badStart => "invalid start byte"
  | badContinuation => "invalid continuation byte"
  | endedEarly => "unexpected end of data"

/-- The wording of a fault: the byte and its position, or the first and
the last position of several bytes. -/
def Utf8Fault.message (f : Utf8Fault) : String :=
  let what := match f.bytes with
    | [b] =>
        "byte 0x" ++ String.ofList (hexPadded 2 b.toNat) ++ " in position "
          ++ f.position.repr
    | bytes =>
        "bytes in position " ++ f.position.repr ++ "-"
          ++ (f.position + bytes.length - 1).repr
  "'utf-8' codec can't decode " ++ what ++ ": " ++ f.reason.message

end KbDocs.Text
