/-
LayeredSettings/Url/Punycode.lean

Punycode: text beyond ASCII written in ASCII letters, digits and hyphens.  The
ASCII characters come first; then, in the order of their code points, every
other character by the distance to the place of its predecessor, each distance
a number of variable length whose digit weights adapt to the distances so far.
-/

namespace LayeredSettings

namespace Url

namespace Punycode

/-! ### Numbers of variable length -/

/-- The least code point beyond ASCII. -/
def firstCode : Nat := 0x80

/-- The bias before the first number. -/
def firstBias : Nat := 72

/-- The threshold of a digit position: a digit below it ends its number. -/
def threshold (bias k : Nat) : Nat := if k ≤ bias + 1 then 1 else min 26 (k - bias)

/-- The digit of a value below 36. -/
def digitOf (v : Nat) : Char := if v < 26 then Char.ofNat (0x61 + v) else Char.ofNat (0x16 + v)

/-- The value of a digit. -/
def valueOf? (c : Char) : Option Nat :=
  if c.isDigit then some (c.toNat - 0x16)
  else if c.isLower then some (c.toNat - 0x61)
  else if c.isUpper then some (c.toNat - 0x41)
  else none

/-- The bias behind a number. -/
def adapt (delta count : Nat) (first : Bool) : Nat :=
  let start := if first then delta / 700 else delta / 2
  shrink 0 (start + start / count)
where
  /-- Divides until the rest is small, counting positions. -/
  shrink (k d : Nat) : Nat :=
    if h : 455 < d then shrink (k + 36) (d / 35) else k + 36 * d / (d + 38)
  termination_by d
  decreasing_by exact Nat.div_lt_self (by omega) (by omega)

theorem threshold_pos (bias k : Nat) : 1 ≤ threshold bias k := by
  unfold threshold
  split <;> omega

/-- The digits of a number from one position on. -/
def number (bias k q : Nat) : List Char :=
  let t := threshold bias k
  if h : q < t then [digitOf q]
  else digitOf (t + (q - t) % (36 - t)) :: number bias (k + 36) ((q - t) / (36 - t))
termination_by q
decreasing_by
  have h1 := threshold_pos bias k
  have h2 : (q - threshold bias k) / (36 - threshold bias k) ≤ q - threshold bias k :=
    Nat.div_le_self _ _
  omega

/-! ### Encoding -/

/-- The state between two characters: the distance so far, the bias, and how many characters
were written. -/
structure Writer where
  delta : Nat
  bias : Nat
  written : Nat
  basic : Nat

/-- One pass over the text for one code point: each smaller one widens the distance, each equal
one is written. -/
def pass (code : Nat) : List Nat → Writer → List Char × Writer
  | [], w => ([], w)
  | c :: rest, w =>
      if c < code then pass code rest { w with delta := w.delta + 1 }
      else if c = code then
        let next : Writer :=
          ⟨0, adapt w.delta (w.written + 1) (w.written == w.basic), w.written + 1, w.basic⟩
        let (digits, last) := pass code rest next
        (number w.bias 36 w.delta ++ digits, last)
      else pass code rest w

/-- The passes for increasing code points. -/
def passes (text : List Nat) : Nat → List Nat → Writer → List Char
  | _, [], _ => []
  | reached, code :: more, w =>
      let start := { w with delta := w.delta + (code - reached) * (w.written + 1) }
      let (digits, last) := pass code text start
      digits ++ passes text (code + 1) more { last with delta := last.delta + 1 }

/-- The distinct code points beyond ASCII, in order. -/
def codesBeyond (text : List Nat) : List Nat :=
  ((text.filter fun c => firstCode ≤ c).mergeSort).eraseDups

/-- The ASCII form of a text. -/
def encode (text : List Char) : List Char :=
  let codes := text.map Char.toNat
  let basic := text.filter fun c => c.toNat < firstCode
  let n := basic.length
  basic ++ (if n = 0 then [] else ['-']) ++
    passes codes firstCode (codesBeyond codes) ⟨0, firstBias, n, n⟩

/-! ### Decoding -/

/-- The state between two digits. -/
structure Reader where
  code : Nat
  index : Nat
  bias : Nat
  start : Nat
  weight : Nat
  position : Nat
  text : List Nat

/-- One digit: it ends its number and places a character, or it continues the number. -/
def Reader.digit (r : Reader) (v : Nat) : Reader :=
  let index := r.index + v * r.weight
  let t := threshold r.bias r.position
  if v < t then
    let count := r.text.length + 1
    let place := index % count
    let code := r.code + index / count
    { code := code, index := place + 1, bias := adapt (index - r.start) count (r.start == 0),
      start := place + 1, weight := 1, position := 36,
      text := r.text.take place ++ code :: r.text.drop place }
  else { r with index := index, weight := r.weight * (36 - t), position := r.position + 36 }

/-- The digits of a text one after the other. -/
def decodeDigits : List Char → Reader → Option (List Nat)
  | [], r => if r.position = 36 then some r.text else none
  | c :: rest, r =>
      match valueOf? c with
      | none => none
      | some v => decodeDigits rest (r.digit v)

/-- The text behind an ASCII form; its last hyphen ends the ASCII characters, of which there has
to be one then. -/
def decode (s : List Char) : Option (List Char) :=
  let tail := (s.reverse.takeWhile (· != '-')).reverse
  let basic := s.take (s.length - tail.length - 1)
  if basic.isEmpty && tail.length < s.length then none
  else
    let codes := decodeDigits tail ⟨firstCode, 0, firstBias, 0, 1, 36, basic.map Char.toNat⟩
    codes.bind fun ns =>
      if ns.all fun n => n < 0xD800 || (0xE000 ≤ n && n ≤ 0x10FFFF) then some (ns.map Char.ofNat)
      else none

end Punycode

end Url

end LayeredSettings
