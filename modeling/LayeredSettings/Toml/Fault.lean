/-
LayeredSettings/Toml/Fault.lean

What can be wrong with a document, where, and how it is worded.  Readers work on
the characters that are left, so a place is first the number of characters left
(`Stop.fault`); `Position.of` turns it into a line and a column once the whole
text is at hand.

A decimal integer with more digits than `digitLimit` is no fault of the grammar
and stops reading in its own way (`Stop.longInteger`).
-/
import LayeredSettings.Path
import LayeredSettings.Text.Quoted

namespace LayeredSettings

namespace Toml

/-! ### Faults -/

/-- What is wrong at a place of a document. -/
inductive Fault where
  | invalidStatement
  | statementEnd
  | invalidCharacter (c : Char)
  | keyStart
  | missingEquals
  | redefined (key : Path)
  | immutable (key : Path)
  | overwritten
  | declaredTwice (key : Path)
  | tableEnd
  | arrayTableEnd
  | duplicateKey (key : String)
  | openInlineTable
  | openArray
  | openString
  | illegalCharacter (c : Char)
  | unescaped
  | invalidHex
  | notScalar
  | missingQuote (quote : String)
  | invalidDate
  | invalidValue
  deriving DecidableEq, Inhabited

/-- The text of one character between quotes. -/
def quotedChar (c : Char) : String := Text.quoted (String.ofList [c])

/-- The wording of a fault. -/
def Fault.message : Fault → String
  | .invalidStatement => "Invalid statement"
  | .statementEnd => "Expected newline or end of document after a statement"
  | .invalidCharacter c => "Found invalid character " ++ quotedChar c
  | .keyStart => "Invalid initial character for a key part"
  | .missingEquals => "Expected '=' after a key in a key/value pair"
  | .redefined key => "Cannot redefine namespace " ++ Text.quotedTuple key
  | .immutable key => "Cannot mutate immutable namespace " ++ Text.quotedTuple key
  | .overwritten => "Cannot overwrite a value"
  | .declaredTwice key => "Cannot declare " ++ Text.quotedTuple key ++ " twice"
  | .tableEnd => "Expected ']' at the end of a table declaration"
  | .arrayTableEnd => "Expected ']]' at the end of an array declaration"
  | .duplicateKey key => "Duplicate inline table key " ++ Text.quoted key
  | .openInlineTable => "Unclosed inline table"
  | .openArray => "Unclosed array"
  | .openString => "Unterminated string"
  | .illegalCharacter c => "Illegal character " ++ quotedChar c
  | .unescaped => "Unescaped '\\' in a string"
  | .invalidHex => "Invalid hex value"
  | .notScalar => "Escaped character is not a Unicode scalar value"
  | .missingQuote quote => "Expected " ++ Text.quoted quote
  | .invalidDate => "Invalid date or datetime"
  | .invalidValue => "Invalid value"

/-! ### Places -/

/-- A place in a document: at or behind its end, or a line and a column counted from one. -/
inductive Position where
  | documentEnd
  | at (line column : Nat)
  deriving DecidableEq, Inhabited

/-- The place in `source` with `left` characters left. -/
def Position.of (source : List Char) (left : Nat) : Position :=
  if left = 0 then .documentEnd
  else
    let before := source.take (source.length - left)
    .at (before.count '\n' + 1) ((before.reverse.takeWhile (· != '\n')).length + 1)

/-- The wording of a place. -/
def Position.message : Position → String
  | .documentEnd => "end of document"
  | .at line column => "line " ++ toString line ++ ", column " ++ toString column

/-! ### Ways to stop -/

/-- The longest decimal integer that is read. -/
def digitLimit : Nat := 4300

/-- Why reading stopped: a fault with `left` characters left, or an integer of too many digits. -/
inductive Stop where
  | fault (f : Fault) (left : Nat)
  | longInteger (digits : Nat)
  deriving DecidableEq, Inhabited

/-- What a reader gives: a result and the characters that are left. -/
abbrev Reading (α : Type) := Except Stop (α × List Char)

/-- A fault in front of the characters that are left. -/
def failAt {α : Type} (f : Fault) (rest : List Char) : Except Stop α :=
  .error (.fault f rest.length)

/-- Why a document was not read. -/
inductive Error where
  | malformed (f : Fault) (p : Position)
  | longInteger (digits : Nat)
  deriving DecidableEq, Inhabited

/-- The wording of a fault at its place. -/
def faultMessage (f : Fault) (p : Position) : String :=
  f.message ++ " (at " ++ p.message ++ ")"

/-- The wording of an integer that is too long. -/
def longIntegerMessage (digits : Nat) : String :=
  "Exceeds the limit (" ++ toString digitLimit ++
    " digits) for integer string conversion: value has " ++ toString digits ++
    " digits; use sys.set_int_max_str_digits() to increase the limit"

/-- Why reading `source` stopped, with the place as a line and a column. -/
def Stop.error (source : List Char) : Stop → Error
  | .fault f left => .malformed f (Position.of source left)
  | .longInteger digits => .longInteger digits

end Toml

end LayeredSettings
