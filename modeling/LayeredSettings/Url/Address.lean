/-
LayeredSettings/Url/Address.lean

Numeric addresses of hosts.

A version 4 address is one to four numbers with points between them, each
decimal, octal behind `0` or hexadecimal behind `0x`; the last number fills all
the bytes that are left.  A host counts as such an address as soon as its last
label is a number (`endsInNumber`).

A version 6 address is eight groups of up to four hexadecimal digits with
colons between them; `::` stands for one or more groups of zero, and a version 4
address may stand for the last two groups.  It is written with the longest run
of at least two zero groups left out, the first of several.
-/
import LayeredSettings.Text.Digits
import LayeredSettings.Text.Pieces

namespace LayeredSettings

namespace Url

open Text

-- powers are those of the core library, whatever else is in scope
attribute [local instance (high)] instPowNat

/-! ### Version 4 -/

/-- The number that one part of an address writes. -/
def partNumber? : List Char → Option Nat
  | [] => none
  | ['0'] => some 0
  | '0' :: 'x' :: digits => inBase 16 isHexDigit digits
  | '0' :: 'X' :: digits => inBase 16 isHexDigit digits
  | '0' :: digits => inBase 8 isOctalDigit digits
  | digits => inBase 10 Char.isDigit digits
where
  /-- The number that digits of one base write. -/
  inBase (base : Nat) (isDigit : Char → Bool) (digits : List Char) : Option Nat :=
    if digits.all isDigit then some (numberOf base digits) else none

/-- The labels of a host; a point at the end is no label of its own. -/
def labels (host : List Char) : List (List Char) :=
  let all := pieces ['.'] host
  if all.length ≠ 1 ∧ all.getLast? = some [] then all.dropLast else all

/-- Whether the last label of a host is a number. -/
def endsInNumber (host : List Char) : Bool :=
  match (labels host).getLast? with
  | none => false
  | some [] => false
  | some last => last.all Char.isDigit || (partNumber? last).isSome

/-- The address of numbers: each but the last is one byte, and the last is the rest. -/
def addressOf : List Nat → Option Nat
  | [] => none
  | numbers =>
      let front := numbers.dropLast
      let last := numbers.getLast?.getD 0
      if 4 < numbers.length then none
      else if front.any (255 < ·) then none
      else if 256 ^ (4 - front.length) ≤ last then none
      else some (front.foldl (fun n b => n * 256 + b) 0 * 256 ^ (4 - front.length) + last)

/-- The version 4 address that a host writes. -/
def version4? (host : List Char) : Option Nat :=
  ((labels host).mapM partNumber?).bind addressOf

/-- A version 4 address as four decimal numbers. -/
def version4Text (address : Nat) : List Char :=
  joined ['.'] ([3, 2, 1, 0].map fun i : Nat => Nat.toDigits 10 (address / 256 ^ i % 256))

/-! ### Version 6 -/

/-- The number of a group. -/
def group? (digits : List Char) : Option Nat :=
  if digits.isEmpty || 4 < digits.length || !digits.all isHexDigit then none
  else some (numberOf 16 digits)

/-- The number of one byte in decimal, without zeros in front. -/
def byte? (digits : List Char) : Option Nat :=
  if digits.isEmpty || !digits.all Char.isDigit || 3 < digits.length then none
  else if digits.head? = some '0' ∧ digits.length ≠ 1 then none
  else if 255 < numberOf 10 digits then none
  else some (numberOf 10 digits)

/-- The two groups of four bytes with points between them. -/
def embedded? (s : List Char) : Option (List Nat) :=
  match (pieces ['.'] s).mapM byte? with
  | some [a, b, c, d] => some [a * 256 + b, c * 256 + d]
  | _ => none

/-- The groups of a text without `::`; only the last one may be a version 4 address. -/
def groups? (mayEmbed : Bool) : List (List Char) → Option (List Nat)
  | [] => some []
  | [last] =>
      if mayEmbed && last.contains '.' then embedded? last else (group? last).map fun g => [g]
  | first :: rest =>
      match group? first, groups? mayEmbed rest with
      | some g, some gs => some (g :: gs)
      | _, _ => none

/-- The groups between colons; the empty text has none. -/
def groupsOf? (mayEmbed : Bool) (s : List Char) : Option (List Nat) :=
  if s.isEmpty then some [] else groups? mayEmbed (pieces [':'] s)

/-- The text before and the text after the first `::`. -/
def atGap : List Char → Option (List Char × List Char)
  | ':' :: ':' :: rest => some ([], rest)
  | c :: rest => (atGap rest).map fun (before, after) => (c :: before, after)
  | [] => none

/-- The eight groups that a text writes. -/
def version6? (s : List Char) : Option (List Nat) :=
  match atGap s with
  | none =>
      match groupsOf? true s with
      | some groups => if groups.length = 8 then some groups else none
      | none => none
  | some (before, after) =>
      match groupsOf? false before, groupsOf? true after with
      | some left, some right =>
          if left.length + right.length ≤ 7 then
            some (left ++ List.replicate (8 - left.length - right.length) 0 ++ right)
          else none
      | _, _ => none

/-- The length of the run of zeros in front. -/
def zerosAhead (groups : List Nat) : Nat := (groups.takeWhile (· == 0)).length

/-- Where the longest run of zeros starts, the first of several, and how long it is. -/
def longestZeros : Nat → List Nat → Nat × Nat
  | start, [] => (start, 0)
  | start, g :: rest =>
      let here := zerosAhead (g :: rest)
      let later := longestZeros (start + 1) rest
      if later.2 ≤ here then (start, here) else later

/-- Groups in hexadecimal with colons between them. -/
def groupsText (groups : List Nat) : List Char := joined [':'] (groups.map (Nat.toDigits 16))

/-- The groups of a version 6 address with the longest run of zeros left out. -/
def version6Text (groups : List Nat) : List Char :=
  let (start, length) := longestZeros 0 groups
  if length < 2 then groupsText groups
  else groupsText (groups.take start) ++ [':', ':'] ++ groupsText (groups.drop (start + length))

end Url

end LayeredSettings
