import Folio.Number.Decimal
import Folio.Text.Hex

/-! Reading UTF-8. A first byte says how many bytes follow and bounds the next of them; what cannot
be read is reported with the bytes it covers. -/
namespace Folio.Text.Utf8

inductive Reason where
  | start
  | continuation
  | truncated

def Reason.text : Reason → String
  | .start => "invalid start byte"
  | .continuation => "invalid continuation byte"
  | .truncated => "unexpected end of data"

/-- The offending bytes lie from `first` to `last`; `byte` is the first of them. -/
structure Mishap where
  reason : Reason
  byte : Nat
  first : Nat
  last : Nat

def Mishap.message (mishap : Mishap) : String :=
  let place := Number.digitsText mishap.first
  let what :=
    if mishap.first == mishap.last then
      "byte 0x" ++ String.ofList (hexPadded 2 mishap.byte) ++ " in position " ++ place
    else "bytes in position " ++ place ++ "-" ++ Number.digitsText mishap.last
  "'utf-8' codec can't decode " ++ what ++ ": " ++ mishap.reason.text

def tail : Nat × Nat := (0x80, 0xBF)

/-- The bounds of the bytes to follow a first byte, and the bits it contributes. -/
def lead? (byte : Nat) : Option (List (Nat × Nat) × Nat) :=
  if byte < 0x80 then some ([], byte)
  else if byte < 0xC2 then none
  else if byte < 0xE0 then some ([tail], byte - 0xC0)
  else if byte == 0xE0 then some ([(0xA0, 0xBF), tail], 0)
  else if byte == 0xED then some ([(0x80, 0x9F), tail], 0xD)
  else if byte < 0xF0 then some ([tail, tail], byte - 0xE0)
  else if byte == 0xF0 then some ([(0x90, 0xBF), tail, tail], 0)
  else if byte < 0xF4 then some ([tail, tail, tail], byte - 0xF0)
  else if byte == 0xF4 then some ([(0x80, 0x8F), tail, tail], 4)
  else none

/-- A character begun but not ended: its first byte, where that stood, and its bits so far. -/
structure Pending where
  byte : Nat
  first : Nat
  bits : Nat

def scan (pending : Pending) (owed : List (Nat × Nat)) (index : Nat) :
    List Nat → Except Mishap (List Char)
  | [] =>
    if owed.isEmpty then .ok []
    else .error ⟨.truncated, pending.byte, pending.first, index - 1⟩
  | byte :: rest =>
    match owed with
    | [] =>
      match lead? byte with
      | none => .error ⟨.start, byte, index, index⟩
      | some ([], bits) => (scan pending [] (index + 1) rest).map (Char.ofNat bits :: ·)
      | some (owed, bits) => scan ⟨byte, index, bits⟩ owed (index + 1) rest
    | (low, high) :: more =>
      if low ≤ byte && byte ≤ high then
        let bits := pending.bits * 64 + (byte - 0x80)
        if more.isEmpty then (scan pending [] (index + 1) rest).map (Char.ofNat bits :: ·)
        else scan { pending with bits } more (index + 1) rest
      else .error ⟨.continuation, pending.byte, pending.first, index - 1⟩

def decode (bytes : List UInt8) : Except Mishap (List Char) :=
  scan ⟨0, 0, 0⟩ [] 0 (bytes.map UInt8.toNat)

end Folio.Text.Utf8
