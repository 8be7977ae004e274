import VersionGate.Text.Hexadecimal

/-!
# Decoding UTF-8

A sequence of bytes is either the encoding of a text or has a first fault. The
fault tells where it lies, how many bytes of a broken sequence were still in
order, and what is wrong there.
-/

namespace VersionGate.Text

/-- What is wrong at the place where decoding stops. -/
inductive Utf8Defect where
  | invalidStart
  | invalidContinuation
  | unexpectedEnd
deriving DecidableEq, Repr

/-- The wording of a defect. -/
def Utf8Defect.message : Utf8Defect → String
  | .invalidStart => "invalid start byte"
  | .invalidContinuation => "invalid continuation byte"
  | .unexpectedEnd => "unexpected end of data"

/-- The first fault of a sequence of bytes: its first byte, the position of that
byte, the number of bytes that belong to it, and the defect. -/
structure Utf8Fault where
  byte : UInt8
  position : Nat
  count : Nat
  defect : Utf8Defect
deriving DecidableEq, Repr

/-- The wording of a fault names the byte when it is alone and otherwise the range
of positions. -/
def Utf8Fault.message (fault : Utf8Fault) : String :=
  let place :=
    if fault.count ≤ 1 then
      "byte 0x" ++ String.ofList (hexDigits 2 fault.byte.toNat) ++ " in position " ++
        toString fault.position
    else
      "bytes in position " ++ toString fault.position ++ "-" ++
        toString (fault.position + fault.count - 1)
  "'utf-8' codec can't decode " ++ place ++ ": " ++ fault.defect.message

/-- The ranges in which the bytes after a start byte have to lie, and nothing for
a byte that cannot start a sequence. -/
def continuationRanges (start : UInt8) : Option (List (UInt8 × UInt8)) :=
  if start < 0x80 then some []
  else if start < 0xC2 then none
  else if start < 0xE0 then some [(0x80, 0xBF)]
  else if start == 0xE0 then some [(0xA0, 0xBF), (0x80, 0xBF)]
  else if start == 0xED then some [(0x80, 0x9F), (0x80, 0xBF)]
  else if start < 0xF0 then some [(0x80, 0xBF), (0x80, 0xBF)]
  else if start == 0xF0 then some [(0x90, 0xBF), (0x80, 0xBF), (0x80, 0xBF)]
  else if start < 0xF4 then some [(0x80, 0xBF), (0x80, 0xBF), (0x80, 0xBF)]
  else if start == 0xF4 then some [(0x80, 0x8F), (0x80, 0xBF), (0x80, 0xBF)]
  else none

/-- The defect of a sequence whose following bytes have to lie in the ranges, with
the number of bytes in order before it; nothing if they all do. -/
def continuationDefect : List (UInt8 × UInt8) → List UInt8 → Option (Nat × Utf8Defect)
  | [], _ => none
  | _ :: _, [] => some (0, .unexpectedEnd)
  | range :: ranges, byte :: bytes =>
    if range.1 ≤ byte && byte ≤ range.2 then
      (continuationDefect ranges bytes).map fun found => (found.1 + 1, found.2)
    else some (0, .invalidContinuation)

/-- The first fault of the bytes that follow the given position; `skip` of them
belong to a sequence that is already known to be in order. -/
def firstFault (position : Nat) : Nat → List UInt8 → Option Utf8Fault
  | _, [] => none
  | skip + 1, _ :: bytes => firstFault (position + 1) skip bytes
  | 0, byte :: bytes =>
    match continuationRanges byte with
    | none => some ⟨byte, position, 1, .invalidStart⟩
    | some ranges =>
      match continuationDefect ranges bytes with
      | some found => some ⟨byte, position, found.1 + 1, found.2⟩
      | none => firstFault (position + 1) ranges.length bytes

/-- The text that the bytes encode, or their first fault. -/
def decodeUtf8 (bytes : ByteArray) : Except Utf8Fault String :=
  match String.fromUTF8? bytes with
  | some text => .ok text
  | none => .error ((firstFault 0 0 bytes.toList).getD ⟨0, 0, 1, .invalidStart⟩)

example : (firstFault 0 0 [0x61, 0xED, 0xA0, 0x80]) =
    some ⟨0xED, 1, 1, .invalidContinuation⟩ := by decide
example : (firstFault 0 0 [0xF0, 0x9F, 0x41]) =
    some ⟨0xF0, 0, 2, .invalidContinuation⟩ := by decide

end VersionGate.Text
