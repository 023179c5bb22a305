/-! UTF-8 in both directions. A byte string that is not valid is refused with the first fault and
the place of the sequence that has it. -/

namespace MarkdownCanon.Text.Utf8

inductive Fault where
  | invalidStart
  | invalidContinuation
  | unexpectedEnd
  deriving DecidableEq, Repr

/-- Why and where bytes are no encoded text; `start` is the offset of the refused sequence. -/
structure DecodeError where
  fault : Fault
  start : Nat
  deriving DecidableEq, Repr

def Fault.message : Fault → String
  | .invalidStart => "invalid start byte"
  | .invalidContinuation => "invalid continuation byte"
  | .unexpectedEnd => "unexpected end of data"

def encode (cs : List Char) : List UInt8 := cs.flatMap String.utf8EncodeChar

/-- A sequence begun at `start`: the value read so far, the bytes still owed and the range that
the next of them lies in. -/
structure Sequence where
  start : Nat
  value : Nat
  owed : Nat
  low : Nat
  high : Nat

/-- The sequence that a first byte beyond ASCII opens. The ranges leave out overlong forms,
surrogates and values above the last code point. -/
def open? (start b : Nat) : Option Sequence :=
  if 0xC2 ≤ b && b ≤ 0xDF then some ⟨start, b - 0xC0, 1, 0x80, 0xBF⟩
  else if b == 0xE0 then some ⟨start, 0, 2, 0xA0, 0xBF⟩
  else if b == 0xED then some ⟨start, 0xD, 2, 0x80, 0x9F⟩
  else if 0xE1 ≤ b && b ≤ 0xEF then some ⟨start, b - 0xE0, 2, 0x80, 0xBF⟩
  else if b == 0xF0 then some ⟨start, 0, 3, 0x90, 0xBF⟩
  else if 0xF1 ≤ b && b ≤ 0xF3 then some ⟨start, b - 0xF0, 3, 0x80, 0xBF⟩
  else if b == 0xF4 then some ⟨start, 4, 3, 0x80, 0x8F⟩
  else none

/-- Decodes the bytes from offset `pos` on, inside `sequence` if one is begun. -/
def decodeFrom (pos : Nat) (sequence : Option Sequence) :
    List UInt8 → Except DecodeError (List Char)
  | [] =>
    match sequence with
    | none => .ok []
    | some s => .error ⟨.unexpectedEnd, s.start⟩
  | byte :: rest =>
    let b := byte.toNat
    match sequence with
    | none =>
      if b < 0x80 then (Char.ofNat b :: ·) <$> decodeFrom (pos + 1) none rest
      else match open? pos b with
        | none => .error ⟨.invalidStart, pos⟩
        | some s => decodeFrom (pos + 1) (some s) rest
    | some s =>
      if s.low ≤ b && b ≤ s.high then
        let value := s.value * 0x40 + (b - 0x80)
        if s.owed ≤ 1 then (Char.ofNat value :: ·) <$> decodeFrom (pos + 1) none rest
        else decodeFrom (pos + 1) (some ⟨s.start, value, s.owed - 1, 0x80, 0xBF⟩) rest
      else .error ⟨.invalidContinuation, s.start⟩

def decode (bs : List UInt8) : Except DecodeError (List Char) := decodeFrom 0 none bs

end MarkdownCanon.Text.Utf8
