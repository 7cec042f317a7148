/-
LayeredSettings/Text/Utf8.lean

UTF-8 over bytes given as naturals: `decode` reads a whole sequence or says
where and why it fails, `encode` writes one.

A character starts with a byte that fixes its length and the range of its
second byte (`Lead`); the bytes behind the second are plain continuation bytes.
The first byte that cannot continue the character ends the faulty stretch,
which is what `Fault` reports: where it starts, how long it is, and which of
three things went wrong.
-/

namespace LayeredSettings

namespace Text

namespace Utf8

/-! ### The syntax of a character -/

/-- What a first byte announces: the bytes still to come, the range of the next one, and the
bits that the first byte itself holds. -/
structure Lead where
  more : Nat
  least : Nat
  greatest : Nat
  bits : Nat
  deriving DecidableEq

/-- The announcement of a first byte, if a character can start with it. -/
def lead? (b : Nat) : Option Lead :=
  if b < 0x80 then some ⟨0, 0x80, 0xBF, b⟩
  else if b < 0xC2 then none
  else if b < 0xE0 then some ⟨1, 0x80, 0xBF, b - 0xC0⟩
  else if b = 0xE0 then some ⟨2, 0xA0, 0xBF, 0⟩
  else if b = 0xED then some ⟨2, 0x80, 0x9F, 0xD⟩
  else if b < 0xF0 then some ⟨2, 0x80, 0xBF, b - 0xE0⟩
  else if b = 0xF0 then some ⟨3, 0x90, 0xBF, 0⟩
  else if b < 0xF4 then some ⟨3, 0x80, 0xBF, b - 0xF0⟩
  else if b = 0xF4 then some ⟨3, 0x80, 0x8F, 4⟩
  else none

/-! ### Decoding -/

/-- Why a stretch of bytes is no character. -/
inductive Reason where
  | start
  | continuation
  | truncated
  deriving DecidableEq, Inhabited

/-- The wording of a reason. -/
def Reason.message : Reason → String
  | .start => "invalid start byte"
  | .continuation => "invalid continuation byte"
  | .truncated => "unexpected end of data"

/-- A stretch of `length` bytes from `position` on that is no character; `byte` is its first. -/
structure Fault where
  reason : Reason
  position : Nat
  length : Nat
  byte : Nat
  deriving DecidableEq, Inhabited

/-- The state between two bytes: the bits so far, the bytes still to come, the range of the
next byte, and the bytes of the character read so far. -/
structure Partial where
  bits : Nat
  more : Nat
  least : Nat
  greatest : Nat
  first : Nat
  taken : Nat

/-- Reads the bytes from `position` on, inside a character if one is open. -/
def decodeFrom (position : Nat) (opened : Option Partial) :
    List Nat → Except Fault (List Char)
  | [] =>
      match opened with
      | none => .ok []
      | some p => .error ⟨.truncated, position - p.taken, p.taken, p.first⟩
  | b :: rest =>
      match opened with
      | none =>
          match lead? b with
          | none => .error ⟨.start, position, 1, b⟩
          | some l =>
              if l.more = 0 then (decodeFrom (position + 1) none rest).map (Char.ofNat b :: ·)
              else decodeFrom (position + 1) (some ⟨l.bits, l.more, l.least, l.greatest, b, 1⟩) rest
      | some p =>
          if p.least ≤ b ∧ b ≤ p.greatest then
            let bits := p.bits * 64 + (b - 0x80)
            if p.more = 1 then (decodeFrom (position + 1) none rest).map (Char.ofNat bits :: ·)
            else
              decodeFrom (position + 1)
                (some ⟨bits, p.more - 1, 0x80, 0xBF, p.first, p.taken + 1⟩) rest
          else .error ⟨.continuation, position - p.taken, p.taken, p.first⟩

/-- The characters that a sequence of bytes encodes. -/
def decode (bytes : List Nat) : Except Fault (List Char) := decodeFrom 0 none bytes

/-! ### Encoding -/

/-- The bytes of a character. -/
def encodeChar (c : Char) : List Nat :=
  let n := c.toNat
  if n < 0x80 then [n]
  else if n < 0x800 then [0xC0 + n / 64, 0x80 + n % 64]
  else if n < 0x10000 then [0xE0 + n / 4096, 0x80 + n / 64 % 64, 0x80 + n % 64]
  else [0xF0 + n / 262144, 0x80 + n / 4096 % 64, 0x80 + n / 64 % 64, 0x80 + n % 64]

/-- The bytes of a text. -/
def encode (s : List Char) : List Nat := s.flatMap encodeChar

end Utf8

end Text

end LayeredSettings
