/-
LayeredSettings/Text/Quoted.lean

Text between quotes, the way messages show it.  The quote is `'`, or `"` for a
text that holds `'` and no `"`; the quote in use and the backslash are escaped,
line feed, carriage return and tab have short escapes, and every other
unprintable character is written by its number in two, four or eight
hexadecimal digits.
-/
import LayeredSettings.Text.Ranges

namespace LayeredSettings

namespace Text

-- powers are those of the core library, whatever else is in scope
attribute [local instance (high)] instPowNat

/-- The last `width` hexadecimal digits of a number, in lower case. -/
def hexDigits (width n : Nat) : List Char :=
  (List.range width).reverse.map fun i => Nat.digitChar (n / 16 ^ i % 16)

/-- The quote for a text. -/
def quoteFor (s : List Char) : Char :=
  if s.contains '\'' && !s.contains '"' then '"' else '\''

/-- The characters that stand for one character between two `quote`s. -/
def escaped (quote c : Char) : List Char :=
  if c = quote ∨ c = '\\' then ['\\', c]
  else if c = '\n' then ['\\', 'n']
  else if c = '\r' then ['\\', 'r']
  else if c = '\t' then ['\\', 't']
  else if isPrintable c then [c]
  else if c.toNat < 0x100 then '\\' :: 'x' :: hexDigits 2 c.toNat
  else if c.toNat < 0x10000 then '\\' :: 'u' :: hexDigits 4 c.toNat
  else '\\' :: 'U' :: hexDigits 8 c.toNat

/-- A list of characters between quotes. -/
def quotedChars (s : List Char) : List Char :=
  let quote := quoteFor s
  quote :: (s.flatMap (escaped quote) ++ [quote])

/-- A text between quotes. -/
def quoted (s : String) : String := String.ofList (quotedChars s.toList)

/-- Quoted texts between parentheses; a single one is followed by a comma. -/
def quotedTuple (items : List String) : String :=
  match items with
  | [one] => "(" ++ quoted one ++ ",)"
  | _ => "(" ++ ", ".intercalate (items.map quoted) ++ ")"

end Text

end LayeredSettings
