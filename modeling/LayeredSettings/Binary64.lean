/-
LayeredSettings/Binary64.lean

Binary floating-point numbers in the 64-bit format, kept exactly: a finite
number is a sign, a significand and a power of two, so that every operation on
it is integer arithmetic and every statement about it is a statement on `Nat`
and `Int`.

* `Binary64.ofRatio` rounds a quotient of naturals to the nearest number of the
  format, ties to the even significand, overflow to infinity;
* `Binary64.ofDecimal` does so for a decimal `digits · 10 ^ exponent`;
* `Binary64.integer?` gives the integer a number denotes, if it denotes one.
-/

namespace LayeredSettings

/-- A number of the 64-bit binary format; `finite s m e` is `± m · 2 ^ e`. -/
inductive Binary64 where
  | nan
  | infinite (negative : Bool)
  | finite (negative : Bool) (significand : Nat) (exponent : Int)
  deriving DecidableEq, Inhabited

namespace Binary64

-- powers are those of the core library, whatever else is in scope
attribute [local instance (high)] instPowNat

/-! ### The format -/

/-- Significands are below this bound. -/
def significandBound : Nat := 2 ^ (53 : Nat)

/-- The least power of two of the format. -/
def leastExponent : Int := -1074

/-- The greatest power of two of the format. -/
def greatestExponent : Int := 971

/-- Zero with a sign. -/
def zero (negative : Bool) : Binary64 := finite negative 0 leastExponent

/-! ### Rounding -/

/-- The greatest `k` with `2 ^ k ≤ num / den`, for positive arguments. -/
def floorLog2 (num den : Nat) : Int :=
  let k : Int := (Nat.log2 num : Int) - Nat.log2 den
  let fits : Bool :=
    if 0 ≤ k then den * 2 ^ k.toNat ≤ num else den ≤ num * 2 ^ (-k).toNat
  if fits then k else k - 1

/-- The nearest natural to `num / den`; a half goes to the even neighbour. -/
def roundHalfEven (num den : Nat) : Nat :=
  let q := num / den
  let r := num % den
  if 2 * r < den then q
  else if den < 2 * r then q + 1
  else if q % 2 = 0 then q else q + 1

/-- The number of the format nearest to `num / den`. -/
def ofRatio (negative : Bool) (num den : Nat) : Binary64 :=
  if num = 0 then zero negative
  else
    let e := max (floorLog2 num den - 52) leastExponent
    let m :=
      if 0 ≤ e then roundHalfEven num (den * 2 ^ e.toNat)
      else roundHalfEven (num * 2 ^ (-e).toNat) den
    let carried := m = significandBound
    let m' := if carried then 2 ^ (52 : Nat) else m
    let e' := if carried then e + 1 else e
    if greatestExponent < e' then infinite negative else finite negative m' e'

/-- The number of decimal digits of a natural; zero has one. -/
def digitCount (n : Nat) : Nat := (Nat.toDigits 10 n).length

/-- The number of the format nearest to `digits · 10 ^ exponent`.  Orders of magnitude
far outside the format are decided before any power is formed. -/
def ofDecimal (negative : Bool) (digits : Nat) (exponent : Int) : Binary64 :=
  let order := (digitCount digits : Int) + exponent
  if digits = 0 then zero negative
  else if 400 < order then infinite negative
  else if order < -400 then zero negative
  else if 0 ≤ exponent then ofRatio negative (digits * 10 ^ exponent.toNat) 1
  else ofRatio negative digits (10 ^ (-exponent).toNat)

/-! ### Integers -/

/-- The absolute value as an integer, when the number is a finite integer. -/
def magnitude? : Binary64 → Option Nat
  | finite _ m e =>
      if 0 ≤ e then some (m * 2 ^ e.toNat)
      else if m % 2 ^ (-e).toNat = 0 then some (m / 2 ^ (-e).toNat)
      else none
  | _ => none

/-- The integer that a number denotes, if it denotes one. -/
def integer? (x : Binary64) : Option Int :=
  match x with
  | finite true _ _ => x.magnitude?.map fun n => -(n : Int)
  | _ => x.magnitude?.map fun n => (n : Int)

/-- Whether a number is neither infinite nor not a number. -/
def isFinite : Binary64 → Bool
  | finite _ _ _ => true
  | _ => false

end Binary64

end LayeredSettings
