/-
LayeredSettings/Proofs/Utf8.lean

What is encoded is decoded again.

A character is followed through the states of `decodeFrom`: the first byte opens it
with the bits it holds (`decodeFrom_open`), a byte in the range asked for adds its
six bits (`decodeFrom_continue`), and the last one closes it (`decodeFrom_close`).
What is left is arithmetic: the range of the first byte, in which the surrogates
and the characters that fewer bytes can write are ruled out, and the sum of the bits.

Main result: `Text.Utf8.decode_encode`.
-/
import LayeredSettings.Text.Utf8
import Mathlib.Data.List.Basic

namespace LayeredSettings

namespace Text

namespace Utf8

variable {position bits more least greatest first taken b : Nat} {rest : List Nat}

/-! ### One byte -/

theorem decodeFrom_open (h : lead? b = some ⟨more + 1, least, greatest, bits⟩) :
    decodeFrom position none (b :: rest) =
      decodeFrom (position + 1) (some ⟨bits, more + 1, least, greatest, b, 1⟩) rest := by
  simp only [decodeFrom, h, if_neg (Nat.succ_ne_zero more)]

theorem decodeFrom_continue (hleast : least ≤ b) (hgreatest : b ≤ greatest) :
    decodeFrom position (some ⟨bits, more + 2, least, greatest, first, taken⟩) (b :: rest) =
      decodeFrom (position + 1)
        (some ⟨bits * 64 + (b - 0x80), more + 1, 0x80, 0xBF, first, taken + 1⟩) rest := by
  have hmore : more + 2 ≠ 1 := by omega
  simp only [decodeFrom, if_pos (And.intro hleast hgreatest), if_neg hmore, Nat.add_one_sub_one]

theorem decodeFrom_close (hleast : least ≤ b) (hgreatest : b ≤ greatest) :
    decodeFrom position (some ⟨bits, 1, least, greatest, first, taken⟩) (b :: rest) =
      (decodeFrom (position + 1) none rest).map (Char.ofNat (bits * 64 + (b - 0x80)) :: ·) := by
  simp only [decodeFrom, if_pos (And.intro hleast hgreatest), if_true]

/-! ### The first byte of a character -/

theorem lead?_of_two {n : Nat} (h : 0x80 ≤ n) (h' : n < 0x800) :
    lead? (0xC0 + n / 64) = some ⟨1, 0x80, 0xBF, n / 64⟩ := by
  rw [lead?, if_neg (by omega), if_neg (by omega), if_pos (by omega)]
  rw [Nat.add_sub_cancel_left]

/-- The range of the second byte holds the next six bits of a character that needs three bytes and
is no surrogate. -/
theorem lead?_of_three {n : Nat} (h : 0x800 ≤ n) (h' : n < 0x10000)
    (hscalar : n < 0xD800 ∨ 0xDFFF < n) :
    ∃ least greatest, lead? (0xE0 + n / 4096) = some ⟨2, least, greatest, n / 4096⟩ ∧
      least ≤ 0x80 + n / 64 % 64 ∧ 0x80 + n / 64 % 64 ≤ greatest := by
  rw [lead?, if_neg (by omega), if_neg (by omega), if_neg (by omega)]
  -- the first byte that would allow a longer form than needed narrows the second one
  by_cases hlow : n / 4096 = 0
  · refine ⟨0xA0, 0xBF, ?_, by omega, by omega⟩
    rw [if_pos (by omega), hlow]
  rw [if_neg (by omega)]
  -- so does the first byte of the surrogates, which are no characters
  by_cases hsurrogate : n / 4096 = 0xD
  · refine ⟨0x80, 0x9F, ?_, by omega, by omega⟩
    rw [if_pos (by omega), hsurrogate]
  refine ⟨0x80, 0xBF, ?_, by omega, by omega⟩
  rw [if_neg (by omega), if_pos (by omega)]
  rw [Nat.add_sub_cancel_left]

/-- The same for a character that needs four bytes and is not beyond the last one. -/
theorem lead?_of_four {n : Nat} (h : 0x10000 ≤ n) (h' : n < 0x110000) :
    ∃ least greatest, lead? (0xF0 + n / 262144) = some ⟨3, least, greatest, n / 262144⟩ ∧
      least ≤ 0x80 + n / 4096 % 64 ∧ 0x80 + n / 4096 % 64 ≤ greatest := by
  rw [lead?, if_neg (by omega), if_neg (by omega), if_neg (by omega), if_neg (by omega),
    if_neg (by omega), if_neg (by omega)]
  -- the least first byte would allow a longer form than needed, and narrows the second one
  by_cases hlow : n / 262144 = 0
  · refine ⟨0x90, 0xBF, ?_, by omega, by omega⟩
    rw [if_pos (by omega), hlow]
  rw [if_neg (by omega)]
  -- the greatest one would lead beyond the last code point
  by_cases hhigh : n / 262144 = 4
  · refine ⟨0x80, 0x8F, ?_, by omega, by omega⟩
    rw [if_neg (by omega), if_pos (by omega), hhigh]
  refine ⟨0x80, 0xBF, ?_, by omega, by omega⟩
  rw [if_pos (by omega)]
  rw [Nat.add_sub_cancel_left]

/-! ### Characters and texts -/

/-- A character that was encoded is read off the front. -/
theorem decodeFrom_encodeChar (c : Char) :
    decodeFrom position none (encodeChar c ++ rest) =
      (decodeFrom (position + (encodeChar c).length) none rest).map (c :: ·) := by
  have hvalid : c.toNat < 0xD800 ∨ 0xDFFF < c.toNat ∧ c.toNat < 0x110000 := c.valid
  -- the bits that the bytes hold add up to the character
  have hsum : ∀ n, n = c.toNat → Char.ofNat n = c := by
    rintro n rfl
    exact Char.ofNat_toNat c
  rw [encodeChar]
  split
  · rename_i hone
    have hlead : lead? c.toNat = some ⟨0, 0x80, 0xBF, c.toNat⟩ := by rw [lead?, if_pos hone]
    simp only [List.singleton_append, decodeFrom, hlead, if_true, List.length_singleton,
      Char.ofNat_toNat]
  split
  · have hlead := lead?_of_two (n := c.toNat) (by omega) (by omega)
    rw [List.cons_append, decodeFrom_open hlead, List.cons_append,
      decodeFrom_close (by omega) (by omega), hsum _ (by omega)]
    rfl
  split
  · obtain ⟨least, greatest, hlead, hleast, hgreatest⟩ :=
      lead?_of_three (n := c.toNat) (by omega) (by omega) (by omega)
    rw [List.cons_append, decodeFrom_open hlead, List.cons_append,
      decodeFrom_continue hleast hgreatest, List.cons_append,
      decodeFrom_close (by omega) (by omega), hsum _ (by omega)]
    rfl
  · obtain ⟨least, greatest, hlead, hleast, hgreatest⟩ :=
      lead?_of_four (n := c.toNat) (by omega) (by omega)
    rw [List.cons_append, decodeFrom_open hlead, List.cons_append,
      decodeFrom_continue hleast hgreatest, List.cons_append,
      decodeFrom_continue (by omega) (by omega), List.cons_append,
      decodeFrom_close (by omega) (by omega), hsum _ (by omega)]
    rfl

theorem decodeFrom_encode (position : Nat) (s : List Char) :
    decodeFrom position none (encode s) = .ok s := by
  induction s generalizing position with
  | nil => rfl
  | cons c s ih =>
      have hcons : encode (c :: s) = encodeChar c ++ encode s := List.flatMap_cons
      rw [hcons, decodeFrom_encodeChar, ih]
      rfl

/-- The bytes of a text are read as this text. -/
theorem decode_encode (s : List Char) : decode (encode s) = .ok s := decodeFrom_encode 0 s

end Utf8

end Text

end LayeredSettings
