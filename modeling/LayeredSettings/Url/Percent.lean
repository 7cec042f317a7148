/-
LayeredSettings/Url/Percent.lean

Percent-encoding.  Each part of a URL has a set of ASCII characters that it
cannot hold as they are; these and everything beyond ASCII are written as the
bytes of their UTF-8 form, each behind a percent sign.  The sets form a chain:
controls, fragment, path, user information.
-/
import LayeredSettings.Text.Digits
import LayeredSettings.Text.Utf8

namespace LayeredSettings

namespace Url

open Text

/-! ### The sets -/

/-- Controls and everything beyond ASCII. -/
def inControlSet (c : Char) : Bool := c.toNat < 0x20 || 0x7E < c.toNat

/-- What a fragment cannot hold. -/
def inFragmentSet (c : Char) : Bool := inControlSet c || [' ', '"', '<', '>', '\x60'].contains c

/-- What a path cannot hold. -/
def inPathSet (c : Char) : Bool :=
  inFragmentSet c || ['#', '?', '\x7b', '\x7d'].contains c

/-- What user information cannot hold. -/
def inUserSet (c : Char) : Bool :=
  inPathSet c || ['/', ':', ';', '=', '@', '[', '\\', ']', '^', '|'].contains c

/-- What a query cannot hold; a special scheme adds the apostrophe. -/
def inQuerySet (special : Bool) (c : Char) : Bool :=
  inControlSet c || [' ', '"', '#', '<', '>'].contains c || (special && c == '\'')

/-! ### Encoding and decoding -/

/-- A byte behind a percent sign. -/
def percentByte (b : Nat) : List Char :=
  ['%', (Nat.digitChar (b / 16)).toUpper, (Nat.digitChar (b % 16)).toUpper]

/-- A text with the characters of a set encoded. -/
def percentEncode (inSet : Char → Bool) (s : List Char) : List Char :=
  s.flatMap fun c => if inSet c then (Utf8.encodeChar c).flatMap percentByte else [c]

/-- The bytes of a text with every encoded byte decoded; a percent sign that starts no byte
stays. -/
def percentDecode : List Char → List Nat
  | [] => []
  | '%' :: a :: b :: rest =>
      if isHexDigit a && isHexDigit b then numberOf 16 [a, b] :: percentDecode rest
      else 0x25 :: percentDecode (a :: b :: rest)
  | c :: rest => Utf8.encodeChar c ++ percentDecode rest

end Url

end LayeredSettings
