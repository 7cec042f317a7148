/-
LayeredSettings/Schema/Numeral.lean

Integers written as text, as an option takes them.  Blanks around the text do
not count; a sign may come first, then digits, with single underscores between
them, and a fraction of zeros may follow.  Zeros in front carry nothing and are
taken off with the underscores among them.
-/
import LayeredSettings.Schema.Issue
import LayeredSettings.Text.Digits
import LayeredSettings.Text.Ranges

namespace LayeredSettings

namespace Numeral

open Text

/-- The longest numeral that is read, in characters. -/
def lengthLimit : Nat := 4300

/-- A sign in front, and the rest. -/
def sign : List Char → Bool × List Char
  | '-' :: rest => (true, rest)
  | '+' :: rest => (false, rest)
  | rest => (false, rest)

/-- The digits without the zeros in front; a zero stays where no other digit follows. -/
def withoutZeros (s : List Char) : Option (List Char) :=
  match s with
  | '0' :: _ =>
      let zeros := s.takeWhile fun c => c == '0' || c == '_'
      match s.dropWhile fun c => c == '0' || c == '_' with
      | [] => if zeros.getLast? = some '0' then some ['0'] else none
      | '.' :: rest => if zeros.getLast? = some '0' then some ('0' :: '.' :: rest) else none
      | c :: rest => if c.isDigit then some (c :: rest) else none
  | c :: _ => if c.isDigit then some s else none
  | [] => none

/-- The digits without a fraction of zeros. -/
def withoutFraction (s : List Char) : List Char :=
  match s.dropWhile (· != '.') with
  | _ :: c :: rest => if (c :: rest).all (· == '0') then s.takeWhile (· != '.') else s
  | _ => s

/-- The integer that a text writes. -/
def read (s : String) : Except Misfit Int :=
  let (negative, body) := sign (trim s.toList)
  match withoutZeros body with
  | none => .error .unreadableInteger
  | some digits =>
      match digitRun Char.isDigit (withoutFraction digits) with
      | (number, []) =>
          if lengthLimit < number.length + negative.toNat then .error .oversizedInteger
          else
            let n : Int := numberOf 10 number
            .ok (if negative then -n else n)
      | (_, _ :: _) => .error .unreadableInteger

end Numeral

end LayeredSettings
