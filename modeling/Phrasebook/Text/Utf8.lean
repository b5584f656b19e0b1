/-!
# Phrasebook.Text.Utf8

Strict decoding of UTF-8. A first byte fixes how many continuation bytes follow and what the first of
them may be, so that no character has two encodings and no surrogate has one. `decode` stops at the
first fault and says where it begins and how many bytes it takes in.
-/

namespace Phrasebook

namespace Utf8

/-- What is wrong with a byte sequence. -/
inductive FaultKind where
  | invalidStart
  | invalidContinuation
  | endOfData
  deriving DecidableEq, Repr

/-- A fault, with its first byte, its place and its extent. -/
structure Fault where
  kind : FaultKind
  start : Nat
  length : Nat
  byte : UInt8
  deriving DecidableEq, Repr

/-- What a first byte promises: its own bits, and the range of each continuation byte. -/
structure Lead where
  bits : Nat
  tails : List (Nat × Nat)

/-- The range of an ordinary continuation byte. -/
def tail : Nat × Nat := (0x80, 0xBF)

/-- The promise of a first byte. -/
def lead? (b : Nat) : Option Lead :=
  if b ≤ 0x7F then some ⟨b, []⟩
  else if b < 0xC2 then none
  else if b ≤ 0xDF then some ⟨b - 0xC0, [tail]⟩
  else if b = 0xE0 then some ⟨0, [(0xA0, 0xBF), tail]⟩
  else if b = 0xED then some ⟨0xD, [(0x80, 0x9F), tail]⟩
  else if b ≤ 0xEF then some ⟨b - 0xE0, [tail, tail]⟩
  else if b = 0xF0 then some ⟨0, [(0x90, 0xBF), tail, tail]⟩
  else if b ≤ 0xF3 then some ⟨b - 0xF0, [tail, tail, tail]⟩
  else if b = 0xF4 then some ⟨4, [(0x80, 0x8F), tail, tail]⟩
  else none

/-- How the continuation bytes of a character turn out. -/
inductive Tails where
  | complete (code : Nat)
  | broken (seen : Nat)
  | missing

/-- Takes the continuation bytes; `seen` bytes of the character came before. -/
def takeTails (code seen : Nat) : List (Nat × Nat) → List UInt8 → Tails
  | [], _ => .complete code
  | _ :: _, [] => .missing
  | (low, high) :: ranges, b :: bytes =>
    if low ≤ b.toNat ∧ b.toNat ≤ high then
      takeTails (code * 64 + (b.toNat - 0x80)) (seen + 1) ranges bytes
    else .broken seen

/-- Decodes bytes; `pending` bytes still belong to the character before, `start` counts bytes. -/
def decodeFrom (start pending : Nat) : List UInt8 → Except Fault (List Char)
  | [] => .ok []
  | b :: bytes =>
    match pending with
    | n + 1 => decodeFrom (start + 1) n bytes
    | 0 =>
      match lead? b.toNat with
      | none => .error ⟨.invalidStart, start, 1, b⟩
      | some lead =>
        match takeTails lead.bits 1 lead.tails bytes with
        | .missing => .error ⟨.endOfData, start, bytes.length + 1, b⟩
        | .broken seen => .error ⟨.invalidContinuation, start, seen, b⟩
        | .complete code =>
          match decodeFrom (start + 1) lead.tails.length bytes with
          | .ok cs => .ok (Char.ofNat code :: cs)
          | .error e => .error e

def decode (bytes : List UInt8) : Except Fault (List Char) := decodeFrom 0 0 bytes

end Utf8

end Phrasebook
