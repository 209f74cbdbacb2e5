import Bugs.Text.Hexadecimal

/-!
# Decoding UTF-8

Bytes are decoded one at a time. A first byte fixes how many bytes are still owed and the
range of the next one, which keeps out overlong forms, surrogates and codes above
U+10FFFF. The first bad sequence ends the decoding with a fault that names its place.
-/

namespace Bugs.Utf8

/-- Why bytes are not UTF-8. Positions count bytes from zero, and both ends are bad bytes. -/
inductive Fault where
  /-- No sequence starts with this byte. -/
  | invalidStart (position : Nat) (byte : UInt8)
  /-- The byte after these cannot continue them. -/
  | invalidContinuation (first last : Nat) (byte : UInt8)
  /-- The bytes end within a sequence. -/
  | unexpectedEnd (first last : Nat) (byte : UInt8)
deriving Repr, DecidableEq

/-- A sequence that has begun. -/
structure Sequence where
  /-- The position of its first byte. -/
  start : Nat
  lead : UInt8
  /-- How many bytes are still owed. -/
  owed : Nat
  /-- The least and the greatest value of the next byte. -/
  low : UInt8
  high : UInt8
  /-- The bits read so far. -/
  code : Nat

/-- The sequence that a first byte from 0x80 upwards begins, if any does. -/
def Sequence.begin? (position : Nat) (byte : UInt8) : Option Sequence :=
  if byte < 0xC2 then none
  else if byte < 0xE0 then some ⟨position, byte, 1, 0x80, 0xBF, byte.toNat % 0x20⟩
  else if byte < 0xF0 then
    let low := if byte = 0xE0 then 0xA0 else 0x80
    let high := if byte = 0xED then 0x9F else 0xBF
    some ⟨position, byte, 2, low, high, byte.toNat % 0x10⟩
  else if byte < 0xF5 then
    let low := if byte = 0xF0 then 0x90 else 0x80
    let high := if byte = 0xF4 then 0x8F else 0xBF
    some ⟨position, byte, 3, low, high, byte.toNat % 0x08⟩
  else none

/-- Decodes bytes from a position on, within a sequence or between two. -/
def decodeFrom : Option Sequence → Nat → List UInt8 → Except Fault (List Char)
  | none, _, [] => .ok []
  | some seq, position, [] => .error (.unexpectedEnd seq.start (position - 1) seq.lead)
  | none, position, byte :: rest =>
    if byte < 0x80 then (Char.ofNat byte.toNat :: ·) <$> decodeFrom none (position + 1) rest
    else
      match Sequence.begin? position byte with
      | none => .error (.invalidStart position byte)
      | some seq => decodeFrom (some seq) (position + 1) rest
  | some seq, position, byte :: rest =>
    if seq.low ≤ byte ∧ byte ≤ seq.high then
      let code := seq.code * 0x40 + byte.toNat % 0x40
      if seq.owed ≤ 1 then (Char.ofNat code :: ·) <$> decodeFrom none (position + 1) rest
      else
        decodeFrom (some { seq with owed := seq.owed - 1, low := 0x80, high := 0xBF, code := code })
          (position + 1) rest
    else .error (.invalidContinuation seq.start (position - 1) seq.lead)

/-- Decodes a text. -/
def decode (bytes : List UInt8) : Except Fault (List Char) :=
  decodeFrom none 0 bytes

/-- The bad bytes of a fault, as a message names them. -/
def badBytes (first last : Nat) (byte : UInt8) : String :=
  if first = last then
    let digits := String.ofList (Text.hexadecimal 2 byte.toNat)
    s!"byte 0x{digits} in position {first}"
  else s!"bytes in position {first}-{last}"

/-- The text of a fault. -/
def Fault.message : Fault → String
  | invalidStart position byte =>
    s!"'utf-8' codec can't decode {badBytes position position byte}: invalid start byte"
  | invalidContinuation first last byte =>
    s!"'utf-8' codec can't decode {badBytes first last byte}: invalid continuation byte"
  | unexpectedEnd first last byte =>
    s!"'utf-8' codec can't decode {badBytes first last byte}: unexpected end of data"

end Bugs.Utf8
