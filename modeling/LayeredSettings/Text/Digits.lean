/-
LayeredSettings/Text/Digits.lean

Digits and the numbers they write, in any base up to sixteen, and runs of
digits in which single underscores may separate two digits.
-/

namespace LayeredSettings

namespace Text

/-- The value of a digit. -/
def digitValue (c : Char) : Nat :=
  if c.isDigit then c.toNat - 0x30
  else if 'a' ≤ c ∧ c ≤ 'f' then c.toNat - 0x57
  else c.toNat - 0x37

/-- Whether a character is a hexadecimal digit. -/
def isHexDigit (c : Char) : Bool := c.isDigit || ('a' ≤ c && c ≤ 'f') || ('A' ≤ c && c ≤ 'F')

/-- Whether a character is an octal digit. -/
def isOctalDigit (c : Char) : Bool := '0' ≤ c && c ≤ '7'

/-- Whether a character is a binary digit. -/
def isBinaryDigit (c : Char) : Bool := c == '0' || c == '1'

/-- The number that digits write in a base. -/
def numberOf (base : Nat) (digits : List Char) : Nat :=
  digits.foldl (fun n c => n * base + digitValue c) 0

/-- Digits of a class, each but the first perhaps behind an underscore: the digits without the
underscores, and what is left. -/
def digitRun (isDigit : Char → Bool) : List Char → List Char × List Char
  | [] => ([], [])
  | [c] => if isDigit c then ([c], []) else ([], [c])
  | c :: d :: rest =>
      if isDigit c then
        let (digits, behind) := digitRun isDigit (d :: rest)
        (c :: digits, behind)
      else if c = '_' ∧ isDigit d then
        let (digits, behind) := digitRun isDigit rest
        (d :: digits, behind)
      else ([], c :: d :: rest)

/-- A run of digits that starts with a digit and not with an underscore. -/
def digits? (isDigit : Char → Bool) (s : List Char) : Option (List Char × List Char) :=
  match s with
  | c :: _ => if isDigit c then some (digitRun isDigit s) else none
  | [] => none

end Text

end LayeredSettings
