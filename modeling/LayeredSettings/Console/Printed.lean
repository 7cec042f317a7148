/-
LayeredSettings/Console/Printed.lean

Text on its way to a console on which brackets could mark up.  Brackets of the
text are kept, whether they look like a mark (`opensMark`) or not, but what is
between them is a stretch of its own (`stretches`), and the backslash, which
keeps a bracket from being a mark, shows traces of that:

* a backslash before a bracket that opens no mark is used up;
* a single backslash at the end of the text is doubled.

In each stretch the codes of pictures are printed as the pictures.  Controls that
would move the cursor are dropped, and tabs go to the next stop.
-/
import LayeredSettings.Console.Pictures
import LayeredSettings.Text.Cells

namespace LayeredSettings

namespace Console

/-! ### Brackets -/

/-- Whether the next bracket of a text is a closing one. -/
def closesNext : List Char → Bool
  | [] => false
  | c :: rest => if c = ']' then true else if c = '[' then false else closesNext rest

/-- Whether a mark starts behind an opening bracket. -/
def opensMark : List Char → Bool
  | [] => false
  | c :: rest => (('a' ≤ c && c ≤ 'z') || c == '#' || c == '/' || c == '@') && closesNext rest

/-- A text with a single backslash at its end doubled. -/
def endDoubled (s : List Char) : List Char :=
  match s.reverse with
  | '\\' :: '\\' :: _ => s
  | '\\' :: _ => s ++ ['\\']
  | _ => s

/-- The stretches of a text behind the start of one, its last character first: each text in
brackets that looks like a mark, and each text between two of them. -/
def stretchesBehind : List Char → Bool → List Char → List (List Char)
  | start, _, [] => [start.reverse]
  | start, true, c :: rest =>
      if c = ']' then (c :: start).reverse :: stretchesBehind [] false rest
      else stretchesBehind (c :: start) true rest
  | start, false, c :: rest =>
      if c = '[' ∧ opensMark rest then start.reverse :: stretchesBehind [c] true rest
      else stretchesBehind (c :: start) false rest

/-- The stretches of a text. -/
def stretches (s : List Char) : List (List Char) := stretchesBehind [] false s

/-- A stretch without the backslashes that are used up. -/
def withoutUsedUp : List Char → List Char
  | [] => []
  | '\\' :: '[' :: rest => '[' :: withoutUsedUp rest
  | c :: rest => c :: withoutUsedUp rest

/-! ### Controls -/

/-- Whether a character would ring the bell or move the cursor. -/
def movesCursor (c : Char) : Bool := ['\x07', '\x08', '\x0b', '\x0c', '\r'].contains c

/-- A text as it is printed, tabs aside. -/
def printedChars (s : List Char) : List Char :=
  ((stretches (endDoubled s)).flatMap fun stretch => withPictures (withoutUsedUp stretch)).filter
    fun c => !movesCursor c

/-- A text as a cell of a table prints it. -/
def printedCell (s : String) : String := String.ofList (printedChars s.toList)

/-- A text as its lines print it. -/
def printed (s : String) : String :=
  String.ofList (Text.joined ['\n'] ((Text.pieces ['\n'] (printedChars s.toList)).map
    Text.expandTabs))

end Console

end LayeredSettings
