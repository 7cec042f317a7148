/-
LayeredSettings/Toml/Scalar.lean

Dates, times and numbers of a document.  Each is found by its longest match from
the first character on; what is left behind the match is for the caller to
judge, so `01` is a zero with a leftover.

A reader gives `none` where its kind of scalar does not start at all.
-/
import LayeredSettings.Toml.Text

namespace LayeredSettings

namespace Toml

open Calendar
open Text (isHexDigit isOctalDigit isBinaryDigit numberOf digits?)

-- powers are those of the core library, whatever else is in scope
attribute [local instance (high)] instPowNat

/-! ### Dates and times -/

/-- `width` decimal digits. -/
def fixedDigits (width : Nat) (s : List Char) : Option (Nat × List Char) :=
  let digits := s.take width
  if digits.length = width ∧ digits.all Char.isDigit then
    some (numberOf 10 digits, s.drop width)
  else none

/-- Two decimal digits with a value between two bounds. -/
def twoDigits (least greatest : Nat) (s : List Char) : Option (Nat × List Char) :=
  (fixedDigits 2 s).filter fun (n, _) => least ≤ n && n ≤ greatest

/-- What is behind a given character. -/
def behind? (c : Char) : List Char → Option (List Char)
  | d :: rest => if d = c then some rest else none
  | [] => none

/-- Microseconds behind a point; digits beyond the sixth are dropped. -/
def fraction : List Char → Nat × List Char
  | '.' :: rest =>
      let digits := rest.takeWhile Char.isDigit
      if digits.isEmpty then (0, '.' :: rest)
      else
        let six := digits.take 6
        (numberOf 10 six * 10 ^ (6 - six.length), rest.dropWhile Char.isDigit)
  | s => (0, s)

/-- A time of day. -/
def timeOfDay? (s : List Char) : Option (TimeOfDay × List Char) := do
  let (hour, s) ← twoDigits 0 23 s
  let s ← behind? ':' s
  let (minute, s) ← twoDigits 0 59 s
  let s ← behind? ':' s
  let (second, s) ← twoDigits 0 59 s
  let (microsecond, s) := fraction s
  return (⟨hour, minute, second, microsecond⟩, s)

/-- An offset from universal time in minutes, if one is written. -/
def zoneOffset (s : List Char) : Option Int × List Char :=
  match s with
  | [] => (none, [])
  | c :: rest =>
      if c = 'Z' ∨ c = 'z' then (some 0, rest)
      else if c = '+' ∨ c = '-' then
        let written := do
          let (hours, s) ← twoDigits 0 23 rest
          let s ← behind? ':' s
          let (minutes, s) ← twoDigits 0 59 s
          return ((hours * 60 + minutes : Nat), s)
        match written with
        | some (minutes, behind) => (some (if c = '-' then -(minutes : Int) else minutes), behind)
        | none => (none, s)
      else (none, s)

/-- A day by its digits; whether it exists is not asked. -/
def date? (s : List Char) : Option (Date × List Char) := do
  let (year, s) ← fixedDigits 4 s
  let s ← behind? '-' s
  let (month, s) ← twoDigits 1 12 s
  let s ← behind? '-' s
  let (day, s) ← twoDigits 1 31 s
  return (⟨year, month, day⟩, s)

/-- A time of day behind a day. -/
def timeBehindDate? : List Char → Option (TimeOfDay × List Char)
  | c :: rest => if c = 'T' ∨ c = 't' ∨ c = ' ' then timeOfDay? rest else none
  | [] => none

/-- A day or a moment.  A day that does not exist is a fault at its start. -/
def dateValue? (s : List Char) : Option (Reading Value) :=
  match date? s with
  | none => none
  | some (date, rest) =>
      if ¬ date.isValid then some (failAt .invalidDate s)
      else
        match timeBehindDate? rest with
        | none => some (.ok (.date date, rest))
        | some (time, rest) =>
            let (offset, rest) := zoneOffset rest
            some (.ok (.moment ⟨date, time, offset⟩, rest))

/-! ### Numbers -/

/-- An integer in base 16, 2 or 8. -/
def radixInteger? : List Char → Option (Int × List Char)
  | '0' :: 'x' :: rest => (digits? isHexDigit rest).map fun (ds, b) => ((numberOf 16 ds : Int), b)
  | '0' :: 'b' :: rest =>
      (digits? isBinaryDigit rest).map fun (ds, b) => ((numberOf 2 ds : Int), b)
  | '0' :: 'o' :: rest =>
      (digits? isOctalDigit rest).map fun (ds, b) => ((numberOf 8 ds : Int), b)
  | _ => none

/-- A sign, if there is one: whether it is negative, and what is behind it. -/
def signed : List Char → Bool × List Char
  | '+' :: rest => (false, rest)
  | '-' :: rest => (true, rest)
  | s => (false, s)

/-- The digits in front of a point: a single zero, or a run that starts with no zero. -/
def wholeDigits? : List Char → Option (List Char × List Char)
  | '0' :: rest => some (['0'], rest)
  | s => digits? Char.isDigit s

/-- The digits behind a point, if both are there. -/
def fractionDigits (s : List Char) : Option (List Char) × List Char :=
  match s with
  | '.' :: rest =>
      match digits? Char.isDigit rest with
      | some (ds, behind) => (some ds, behind)
      | none => (none, s)
  | _ => (none, s)

/-- An exponent, if one is written. -/
def exponent (s : List Char) : Option Int × List Char :=
  match s with
  | c :: rest =>
      if c = 'e' ∨ c = 'E' then
        let (negative, unsigned) := signed rest
        match digits? Char.isDigit unsigned with
        | some (ds, behind) =>
            (some (if negative then -(numberOf 10 ds : Int) else numberOf 10 ds), behind)
        | none => (none, s)
      else (none, s)
  | [] => (none, s)

/-- A decimal integer, or the nearest floating-point number if a fraction or an exponent is
written. -/
def decimal? (s : List Char) : Option (Reading Value) :=
  let (negative, unsigned) := signed s
  match wholeDigits? unsigned with
  | none => none
  | some (whole, rest) =>
      match fractionDigits rest with
      | (fractional, rest) =>
          match exponent rest with
          | (power, rest) =>
              match fractional, power with
              | none, none =>
                  if digitLimit < whole.length then some (.error (.longInteger whole.length))
                  else
                    let n : Int := numberOf 10 whole
                    some (.ok (.integer (if negative then -n else n), rest))
              | _, _ =>
                  let places := fractional.getD []
                  let x := Binary64.ofDecimal negative (numberOf 10 (whole ++ places))
                    (power.getD 0 - places.length)
                  some (.ok (.float x, rest))

/-- The numbers that are written as words. -/
def namedFloat? (s : List Char) : Option (Value × List Char) :=
  let (negative, word) := signed s
  if ['i', 'n', 'f'].isPrefixOf word then
    some (.float (.infinite negative), word.drop 3)
  else if ['n', 'a', 'n'].isPrefixOf word then some (.float .nan, word.drop 3)
  else none

/-- A scalar other than a string or a truth value. -/
def scalar (s : List Char) : Reading Value :=
  match dateValue? s with
  | some reading => reading
  | none =>
      match timeOfDay? s with
      | some (time, rest) => .ok (.time time, rest)
      | none =>
          match radixInteger? s with
          | some (n, rest) => .ok (.integer n, rest)
          | none =>
              match decimal? s with
              | some reading => reading
              | none =>
                  match namedFloat? s with
                  | some found => .ok found
                  | none => failAt .invalidValue s

end Toml

end LayeredSettings
