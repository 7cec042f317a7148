/-
LayeredSettings/Value/Json.lean

Values as JSON, each item and each entry on a line of its own, two blanks deeper
than what it stands in.  Empty arrays and empty tables stay on one line.  Texts
keep every character that JSON does not force to be escaped.
-/
import LayeredSettings.Value.Text

namespace LayeredSettings

/-! ### Texts -/

/-- The characters that stand for one character inside a JSON text. -/
def jsonEscaped (c : Char) : List Char :=
  if c = '"' ∨ c = '\\' then ['\\', c]
  else if c = '\n' then ['\\', 'n']
  else if c = '\r' then ['\\', 'r']
  else if c = '\t' then ['\\', 't']
  else if c = '\x08' then ['\\', 'b']
  else if c = '\x0c' then ['\\', 'f']
  else if c.toNat < 0x20 then '\\' :: 'u' :: Text.hexDigits 4 c.toNat
  else [c]

/-- A text in JSON. -/
def jsonText (s : String) : String :=
  String.ofList ('"' :: (s.toList.flatMap jsonEscaped ++ ['"']))

/-! ### Values -/

/-- Lines between two brackets, at a depth. -/
def jsonBlock (opening closing : String) (depth : Nat) (lines : List String) : String :=
  let margin (n : Nat) : String := "\n" ++ String.ofList (List.replicate (2 * n) ' ')
  if lines.isEmpty then opening ++ closing
  else opening ++ margin (depth + 1) ++ ("," ++ margin (depth + 1)).intercalate lines ++
    margin depth ++ closing

mutual

/-- A value in JSON at a depth. -/
def Value.jsonAt (depth : Nat) : Value → String
  | .null => "null"
  | .boolean b => if b then "true" else "false"
  | .integer n => integerText n
  | .float x => x.text
  | .text s => jsonText s
  | .moment m => jsonText m.text
  | .date d => jsonText d.text
  | .time t => jsonText t.text
  | .array items => jsonBlock "[" "]" depth (Value.jsonItems (depth + 1) items)
  | .table entries => jsonBlock "\x7b" "\x7d" depth (Value.jsonEntries (depth + 1) entries)

/-- The items of an array in JSON. -/
def Value.jsonItems (depth : Nat) : List Value → List String
  | [] => []
  | v :: rest => Value.jsonAt depth v :: Value.jsonItems depth rest

/-- The entries of a table in JSON. -/
def Value.jsonEntries (depth : Nat) : List (String × Value) → List String
  | [] => []
  | (key, v) :: rest =>
      (jsonText key ++ ": " ++ Value.jsonAt depth v) :: Value.jsonEntries depth rest

end

/-- A value in JSON. -/
def Value.json (v : Value) : String := v.jsonAt 0

end LayeredSettings
