/-
LayeredSettings/Path.lean

Paths into nested tables.  A path is a list of keys; its text has a point
between two keys, and reading the text drops empty keys (`Path.ofText`), so
that the empty text is the path of the whole tree.

* `Value.find?` follows a path; it stops at anything but a table.
* `Table.leaves` lists what is not a table with entries, in document order,
  with the text of each path.
-/
import LayeredSettings.Value
import LayeredSettings.Text.Pieces

namespace LayeredSettings

/-- The keys from the root of a tree to one of its values. -/
abbrev Path := List String

/-! ### The text of a path -/

/-- The path that a text with points names; empty keys are dropped. -/
def Path.ofText (s : String) : Path :=
  ((Text.pieces ['.'] s.toList).filter (· != [])).map String.ofList

/-- The keys of a path with points between them. -/
def Path.text (p : Path) : String := ".".intercalate p

/-! ### Following a path -/

/-- The value at a path below a value. -/
def Value.find? : Path → Value → Option Value
  | [], v => some v
  | key :: rest, .table entries =>
      match Table.get? entries key with
      | some v => Value.find? rest v
      | none => none
  | _ :: _, _ => none

/-- The value at a path inside a table. -/
def Table.find? (t : Table) (p : Path) : Option Value := Value.find? p (.table t)

theorem Value.find?_append (p q : Path) (v : Value) :
    Value.find? (p ++ q) v = (Value.find? p v).bind (Value.find? q) := by
  induction p generalizing v with
  | nil => simp [Value.find?]
  | cons key rest ih =>
    cases v <;> simp [Value.find?]
    split <;> simp_all

/-! ### The leaves of a tree -/

/-- A path text with one more key; a key behind the empty text stands alone. -/
def Path.extend (path key : String) : String :=
  if path.isEmpty then key else path ++ "." ++ key

mutual

/-- A value under its path, or the leaves below it if it is a table with entries. -/
def Value.leaves (path : String) : Value → List (String × Value)
  | .table (e :: es) => Table.leaves path (e :: es)
  | v => [(path, v)]

/-- The leaves of the entries of a table under a path, in document order. -/
def Table.leaves (path : String) : List (String × Value) → List (String × Value)
  | [] => []
  | (key, v) :: rest => Value.leaves (Path.extend path key) v ++ Table.leaves path rest

end

end LayeredSettings
