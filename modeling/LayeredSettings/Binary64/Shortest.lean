/-
LayeredSettings/Binary64/Shortest.lean

The decimal text of a 64-bit number: the fewest digits that read back as the
same number, and among those the nearest.

The reals that round to `m · 2 ^ e` form an interval around it.  For one digit,
two digits and so on, the only candidates are the two neighbours of the number
on the grid of that many digits; the first grid with a neighbour inside the
interval gives the digits.  Everything is exact arithmetic on naturals, with
the number measured in quarters of its last binary place, which makes both
half-way points integral.

`Binary64.text` writes the digits with a point when the decimal exponent is at
least -4 and below 16, and in scientific notation otherwise.
-/
import LayeredSettings.Binary64

namespace LayeredSettings

namespace Binary64

-- powers are those of the core library, whatever else is in scope
attribute [local instance (high)] instPowNat

/-- A decimal `digits · 10 ^ exponent`. -/
structure Decimal where
  digits : Nat
  exponent : Int
  deriving DecidableEq, Inhabited

/-! ### The digits -/

/-- The interval of reals that round to a number, as `num / den` for its ends and centre. -/
structure Interval where
  low : Nat
  centre : Nat
  high : Nat
  den : Nat
  closed : Bool

/-- The interval around `m · 2 ^ e`.  Below a power of two the gap is half as wide, and the
half-way points belong to the number with the even significand. -/
def interval (m : Nat) (e : Int) : Interval :=
  let below := if m = 2 ^ (52 : Nat) ∧ leastExponent < e then 1 else 2
  let scale := if 0 ≤ e - 2 then 2 ^ (e - 2).toNat else 1
  let den := if 0 ≤ e - 2 then 1 else 2 ^ (2 - e).toNat
  { low := (4 * m - below) * scale, centre := 4 * m * scale, high := (4 * m + 2) * scale,
    den := den, closed := m % 2 = 0 }

/-- Whether `n / d` lies in an interval. -/
def Interval.contains (i : Interval) (n d : Nat) : Bool :=
  if i.closed then i.low * d ≤ n * i.den && n * i.den ≤ i.high * d
  else i.low * d < n * i.den && n * i.den < i.high * d

/-- The decimal exponent of `num / den`: the greatest `k` with `10 ^ k ≤ num / den`. -/
def floorLog10 (num den : Nat) : Int :=
  if den ≤ num then (digitCount (num / den) : Int) - 1
  else -(digitCount ((den + num - 1) / num - 1) : Int)

/-- The neighbours `c` and `c + 1` of an interval's centre on the grid of multiples of
`10 ^ g`: the one inside the interval, the nearer of two, the even one of two as near. -/
def onGrid (i : Interval) (g : Int) : Option Decimal :=
  let up := if 0 ≤ g then 10 ^ g.toNat else 1
  let down := if 0 ≤ g then 1 else 10 ^ (-g).toNat
  let c := (i.centre * down) / (i.den * up)
  let under := i.contains (c * up) down
  let above := i.contains ((c + 1) * up) down
  let twice := 2 * i.centre * down
  let middle := (2 * c + 1) * up * i.den
  if under && above then
    if twice < middle then some ⟨c, g⟩
    else if middle < twice then some ⟨c + 1, g⟩
    else if c % 2 = 0 then some ⟨c, g⟩ else some ⟨c + 1, g⟩
  else if under then some ⟨c, g⟩
  else if above then some ⟨c + 1, g⟩
  else none

/-- The first grid with a hit, from `n` digits on; seventeen digits always suffice. -/
def shortestFrom (i : Interval) (k : Int) (n : Nat) : Nat → Decimal
  | 0 => ⟨0, 0⟩
  | fuel + 1 =>
      match onGrid i (k - n + 1) with
      | some d => d
      | none => shortestFrom i k (n + 1) fuel

/-- The shortest decimal that reads back as `m · 2 ^ e`, for a positive `m`. -/
def shortest (m : Nat) (e : Int) : Decimal :=
  let i := interval m e
  shortestFrom i (floorLog10 i.centre i.den) 1 18

/-! ### The text -/

/-- The digits without the zeros at their end, and the exponent of the first of them. -/
def Decimal.leading (d : Decimal) : List Char × Int :=
  let all := Nat.toDigits 10 d.digits
  ((all.reverse.dropWhile (· == '0')).reverse, (all.length : Int) + d.exponent - 1)

/-- Digits with a point behind the one of exponent zero; at least one digit on each side. -/
def positional (ds : List Char) (k : Int) : List Char :=
  if k < 0 then '0' :: '.' :: (List.replicate ((-k).toNat - 1) '0' ++ ds)
  else
    let whole := k.toNat + 1
    let padded := ds ++ List.replicate (whole - ds.length) '0'
    let fraction := padded.drop whole
    padded.take whole ++ '.' :: (if fraction.isEmpty then ['0'] else fraction)

/-- An exponent: its sign and at least two digits. -/
def exponentText (k : Int) : List Char :=
  let ds := Nat.toDigits 10 k.natAbs
  'e' :: (if k < 0 then '-' else '+') :: (List.replicate (2 - ds.length) '0' ++ ds)

/-- Digits with a point behind the first of several, and an exponent. -/
def scientific (ds : List Char) (k : Int) : List Char :=
  match ds with
  | d :: (r :: rs) => d :: '.' :: (r :: rs) ++ exponentText k
  | _ => ds ++ exponentText k

/-- The text of a number. -/
def text : Binary64 → String
  | nan => "nan"
  | infinite negative => if negative then "-inf" else "inf"
  | finite negative m e =>
      let body :=
        if m = 0 then ['0', '.', '0']
        else
          let (ds, k) := (shortest m e).leading
          if -4 ≤ k ∧ k < 16 then positional ds k else scientific ds k
      String.ofList (if negative then '-' :: body else body)

end Binary64

end LayeredSettings
