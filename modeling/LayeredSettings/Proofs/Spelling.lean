/-
LayeredSettings/Proofs/Spelling.lean

Texts that spell a number or a boolean.

The text of an integer has a sign if the integer is negative, and digits, of which
only the text of zero begins with a zero.  So nothing is taken off before its digits
are read, and the number they write is the integer (`Numeral.read_integerText`), if
the text is not too long.

As the text of a variable such a text stands for itself, since only arrays and inline
tables stand for something else (`overrideValue_of_not_structured`).  What a text or
a value stands for at an option is related by `Spells`; the option makes the same of
both (`Spells.readOption_eq`).
-/
import LayeredSettings.Override
import LayeredSettings.Proofs.Kinds

namespace LayeredSettings

open Text

/-! ### Digits -/

/-- The digits of an integer are a single zero or begin with another digit. -/
theorem toDigits_cases (n : Nat) :
    (n = 0 ∧ Nat.toDigits 10 n = ['0']) ∨
      ∃ c rest, Nat.toDigits 10 n = c :: rest ∧ c ≠ '0' := by
  induction n using Nat.base_induction 10 (by decide) with
  | single n hn =>
    rcases Nat.eq_zero_or_pos n with rfl | hpos
    · exact .inl ⟨rfl, Nat.toDigits_zero 10⟩
    · -- a single digit that is not zero does not read zero
      have hdigit : ∀ n < 10, 0 < n → Nat.digitChar n ≠ '0' := by decide
      exact .inr ⟨n.digitChar, [], Nat.toDigits_of_lt_base hn, hdigit n hn hpos⟩
  | digit n k hk hpos ih =>
    obtain ⟨rfl, -⟩ | ⟨c, rest, hdigits, hc⟩ := ih
    · exact absurd hpos (lt_irrefl 0)
    · refine .inr ⟨c, rest ++ Nat.toDigits 10 k, ?_, hc⟩
      rw [← Nat.toDigits_append_toDigits (by decide) hpos hk, hdigits, List.cons_append]

theorem isDigit_of_mem_toDigits {n : Nat} {c : Char} (h : c ∈ Nat.toDigits 10 n) :
    c.isDigit = true :=
  Nat.isDigit_of_mem_toDigits (by decide) (by decide) h

/-- The text of an integer is made of a hyphen and digits. -/
theorem mem_integerText {n : Int} {c : Char} (h : c ∈ (integerText n).toList) :
    c = '-' ∨ c.isDigit = true := by
  rw [integerText, String.toList_ofList] at h
  split at h
  · exact (List.mem_cons.1 h).imp_right isDigit_of_mem_toDigits
  · exact .inr (isDigit_of_mem_toDigits h)

/-- A digit is none of the other characters of a numeral. -/
theorem ne_of_isDigit {c : Char} (h : c.isDigit = true) :
    c ≠ '-' ∧ c ≠ '+' ∧ c ≠ '.' ∧ isBlank c = false := by
  have hbounds : 0x30 ≤ c.toNat ∧ c.toNat ≤ 0x39 := by
    simpa [Char.isDigit, UInt32.le_iff_toNat_le] using h
  have hall : ∀ n < 0x3A, 0x30 ≤ n → Char.ofNat n ≠ '-' ∧ Char.ofNat n ≠ '+' ∧
      Char.ofNat n ≠ '.' ∧ isBlank (Char.ofNat n) = false := by decide
  have hdigit := hall c.toNat (by omega) hbounds.1
  rwa [Char.ofNat_toNat] at hdigit

theorem trim_of_not_blank {s : List Char} (h : ∀ c ∈ s, isBlank c = false) : trim s = s := by
  have hkeep : ∀ t : List Char, (∀ c ∈ t, isBlank c = false) → t.dropWhile isBlank = t := by
    intro t ht
    rcases t with - | ⟨c, t⟩
    · rfl
    · rw [List.dropWhile_cons_of_neg (by simp [ht c List.mem_cons_self])]
  rw [trim, hkeep s h, hkeep s.reverse fun c hc => h c (List.mem_reverse.1 hc),
    List.reverse_reverse]

/-- Digits without anything behind them are read to their end. -/
theorem digitRun_of_isDigit {s : List Char} (h : ∀ c ∈ s, c.isDigit = true) :
    digitRun Char.isDigit s = (s, []) := by
  induction s with
  | nil => rfl
  | cons c rest ih =>
    have hc : c.isDigit = true := h c List.mem_cons_self
    have hrest := ih fun d hd => h d (List.mem_cons_of_mem c hd)
    rcases rest with - | ⟨d, rest⟩
    · simp [digitRun, hc]
    · simp [digitRun, hc, hrest]

/-- The number that the digits of an integer write. -/
theorem numberOf_toDigits (n : Nat) : numberOf 10 (Nat.toDigits 10 n) = n := by
  -- both ways to read digits go from left to right and agree digit by digit
  have hfold : ∀ (s : List Char) (k : Nat), (∀ c ∈ s, c.isDigit = true) →
      s.foldl (fun n c => n * 10 + digitValue c) k = Nat.ofDigitChars 10 s k := by
    intro s
    induction s with
    | nil => exact fun k _ => rfl
    | cons c rest ih =>
      intro k hs
      have hc : digitValue c = c.toNat - '0'.toNat := by
        rw [digitValue, if_pos (hs c List.mem_cons_self)]
        rfl
      rw [List.foldl_cons, Nat.ofDigitChars_cons, hc, Nat.mul_comm k 10]
      exact ih _ fun d hd => hs d (List.mem_cons_of_mem c hd)
  rw [numberOf, hfold _ 0 fun c hc => isDigit_of_mem_toDigits hc, Nat.ofDigitChars_ten_toDigits]

namespace Numeral

theorem withoutZeros_toDigits (n : Nat) :
    withoutZeros (Nat.toDigits 10 n) = some (Nat.toDigits 10 n) := by
  obtain ⟨-, hzero⟩ | ⟨c, rest, hdigits, hc⟩ := toDigits_cases n
  · rw [hzero]
    rfl
  · have hdigit : c.isDigit = true :=
      isDigit_of_mem_toDigits (hdigits ▸ List.mem_cons_self : c ∈ Nat.toDigits 10 n)
    rw [hdigits]
    simp [withoutZeros, hdigit]

theorem withoutFraction_of_isDigit {s : List Char} (h : ∀ c ∈ s, c.isDigit = true) :
    withoutFraction s = s := by
  have hnone : s.dropWhile (· != '.') = [] := by
    rw [List.dropWhile_eq_nil_iff]
    intro c hc
    simpa using (ne_of_isDigit (h c hc)).2.2.1
  rw [withoutFraction, hnone]

/-- What stands before the digits of an integer is the sign of a negative one. -/
theorem sign_integerText (n : Int) :
    sign (trim (integerText n).toList) = (decide (n < 0), Nat.toDigits 10 n.natAbs) := by
  have hkept : ∀ c ∈ (integerText n).toList, isBlank c = false := by
    intro c hc
    rcases mem_integerText hc with rfl | hdigit
    · decide
    · exact (ne_of_isDigit hdigit).2.2.2
  rw [trim_of_not_blank hkept, integerText, String.toList_ofList]
  -- a minus sign in front, or a digit, which is no sign
  by_cases hn : n < 0
  · rw [if_pos hn, decide_eq_true hn]
    rfl
  · rw [if_neg hn, decide_eq_false hn]
    rcases hdigits : Nat.toDigits 10 n.natAbs with - | ⟨c, rest⟩
    · exact absurd hdigits Nat.toDigits_ne_nil
    · have hc : c.isDigit = true :=
        isDigit_of_mem_toDigits (hdigits ▸ List.mem_cons_self : c ∈ Nat.toDigits 10 n.natAbs)
      obtain ⟨hminus, hplus, -⟩ := ne_of_isDigit hc
      simp [sign, hminus, hplus]

/-- **The text of an integer is read as the integer**, if it has fewer digits than the longest
numeral. -/
theorem read_integerText {n : Int} (h : (Nat.toDigits 10 n.natAbs).length < lengthLimit) :
    Numeral.read (integerText n) = .ok n := by
  have hdigits : ∀ c ∈ Nat.toDigits 10 n.natAbs, c.isDigit = true :=
    fun c hc => isDigit_of_mem_toDigits hc
  -- the limit counts the sign as well
  have hshort : ¬ lengthLimit < (Nat.toDigits 10 n.natAbs).length + (decide (n < 0)).toNat := by
    have hsign : (decide (n < 0)).toNat ≤ 1 := Bool.toNat_le _
    omega
  simp only [Numeral.read, sign_integerText, withoutZeros_toDigits,
    withoutFraction_of_isDigit hdigits, digitRun_of_isDigit hdigits, if_neg hshort,
    numberOf_toDigits, decide_eq_true_eq]
  congr 1
  split <;> omega

end Numeral

/-! ### Texts of variables -/

/-- A text that does not look like an array or an inline table stands for itself. -/
theorem overrideValue_of_not_structured {raw : String} (h : looksStructured raw.toList = false) :
    overrideValue raw = .ok (.text raw) := by
  rw [overrideValue, h]
  rfl

/-- The text of an integer does not begin like an array or an inline table. -/
theorem looksStructured_integerText (n : Int) : looksStructured (integerText n).toList = false := by
  rcases htext : (integerText n).toList with - | ⟨c, rest⟩
  · rfl
  · have hfirst : c ≠ '[' ∧ c ≠ '\x7b' := by
      have hmem : c ∈ (integerText n).toList := htext ▸ List.mem_cons_self
      rcases mem_integerText hmem with rfl | hdigit
      · decide
      · constructor <;> rintro rfl <;> exact absurd hdigit (by decide)
    simp [looksStructured, hfirst]

/-- The text of a variable and the value of a document that stand for the same at an option: the
text of an integer and the integer, the name of a truth value and the truth value, or a text that
is kept and this text. -/
inductive Spells : Kind → String → Value → Prop
  | integer (least : Int) (greatest : Option Int) {n : Int}
      (h : (Nat.toDigits 10 n.natAbs).length < Numeral.lengthLimit) :
      Spells (.integer least greatest) (integerText n) (.integer n)
  | flag (b : Bool) : Spells .flag (if b then "true" else "false") (.boolean b)
  | text (kind : Kind) {raw : String} (h : overrideValue raw = .ok (.text raw)) :
      Spells kind raw (.text raw)

namespace Spells

variable {kind : Kind} {raw : String} {x : Value}

/-- As the text of a variable such a text stands for itself. -/
theorem value (h : Spells kind raw x) : overrideValue raw = .ok (.text raw) := by
  cases h with
  | integer => exact overrideValue_of_not_structured (looksStructured_integerText _)
  | flag b => cases b <;> exact overrideValue_of_not_structured (by decide)
  | text _ h => exact h

theorem isTable (h : Spells kind raw x) : x.isTable = false := by
  cases h <;> rfl

theorem kind_read_eq (h : Spells kind raw x) : kind.read (.text raw) = kind.read x := by
  cases h with
  | integer least greatest h =>
    simp only [Kind.read, Kind.readInteger, Kind.integerOf, Numeral.read_integerText h]
  | flag b => cases b <;> decide +kernel
  | text => rfl

/-- An option makes the same of the text and of the value. -/
theorem readOption_eq (h : Spells kind raw x) (presence : Presence) :
    Schema.readOption kind presence (.text raw) = Schema.readOption kind presence x := by
  have hunset : Schema.unsets presence (.text raw) = Schema.unsets presence x := by
    cases h with
    | integer => cases presence <;> simp [Schema.unsets, integerText_ne_empty]
    | flag b => cases presence <;> cases b <;> rfl
    | text => rfl
  rw [Schema.readOption_eq_if, Schema.readOption_eq_if, hunset, h.kind_read_eq]

end Spells

end LayeredSettings
