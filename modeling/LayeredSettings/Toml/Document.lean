/-
LayeredSettings/Toml/Document.lean

Documents: statements one after the other, each on a line of its own unless a
value spans several.  A statement is an entry, the header of a table or the
header of an array of tables; it changes the tree built so far, the marks on
its keys and the key that following entries are relative to (`Draft`).

`parse` reads a whole text.  A carriage return before a newline is dropped first
(`unifyNewlines`); one that stands alone is an ordinary character, which no
statement may hold.
-/
import LayeredSettings.Toml.Expression

namespace LayeredSettings

namespace Toml

/-- The state between two statements. -/
structure Draft where
  tree : Table
  marks : Marks
  header : Path
  deriving Inhabited

/-- The state before the first statement. -/
def Draft.empty : Draft := ⟨[], Marks.empty, []⟩

/-! ### Changing the tree -/

/-- The keys above the last part of a dotted key, the shortest first. -/
def keysAbove (header key : Path) : List Path :=
  (List.range (key.length - 1)).map fun i => header ++ key.take (i + 1)

/-- Marks the keys on the way to an entry, unless one of them was declared. -/
def awaitAll : List Path → Marks → Except Fault Marks
  | [], m => .ok m
  | k :: rest, m => if m.isDeclared k then .error (.redefined k) else awaitAll rest (m.await k)

/-- The draft with one more entry below its header. -/
def Draft.addEntry (d : Draft) (key : Path) (v : Value) : Except Fault Draft :=
  let parent := d.header ++ key.dropLast
  let last := key.getLastD ""
  match awaitAll (keysAbove d.header key) d.marks with
  | .error f => .error f
  | .ok marks =>
      if marks.isClosed parent then .error (.immutable parent)
      else
        let insert (s : Table) : Option Table :=
          if (Table.get? s last).isSome then none else some (Table.put s last v)
        match Table.within true insert parent d.tree with
        | none => .error .overwritten
        | some tree =>
            .ok { d with
              tree := tree
              marks := if v.isContainer then marks.close (d.header ++ key) else marks }

/-- The draft behind the header of a table. -/
def Draft.openTable (d : Draft) (key : Path) : Except Fault Draft :=
  let marks := d.marks.settle
  if marks.isDeclared key || marks.isClosed key then .error (.declaredTwice key)
  else
    match Table.within true some key d.tree with
    | none => .error .overwritten
    | some tree => .ok ⟨tree, marks.declare key, key⟩

/-- The draft behind the header of an array of tables: the array has one more table. -/
def Draft.openArray (d : Draft) (key : Path) : Except Fault Draft :=
  let marks := d.marks.settle
  if marks.isClosed key then .error (.immutable key)
  else
    let last := key.getLastD ""
    let append (s : Table) : Option Table :=
      match Table.get? s last with
      | none => some (Table.put s last (.array [.table []]))
      | some (.array vs) => some (Table.put s last (.array (vs ++ [.table []])))
      | some _ => none
    match Table.within true append key.dropLast d.tree with
    | none => .error .overwritten
    | some tree => .ok ⟨tree, (marks.forget key).declare key, key⟩

/-! ### Statements -/

/-- An entry. -/
def entryStatement (d : Draft) (s : List Char) : Reading Draft :=
  match keyAndEquals s with
  | .error e => .error e
  | .ok (k, rest) =>
      match valueOf rest with
      | .error e => .error e
      | .ok (v, rest) =>
          match d.addEntry k v with
          | .error f => failAt f rest
          | .ok d => .ok (d, rest)

/-- The header of a table, behind its bracket. -/
def tableStatement (d : Draft) (s : List Char) : Reading Draft :=
  match key (skipBlanks s) with
  | .error e => .error e
  | .ok (k, rest) =>
      match d.openTable k with
      | .error f => failAt f rest
      | .ok d =>
          match rest with
          | ']' :: behind => .ok (d, behind)
          | _ => failAt .tableEnd rest

/-- The header of an array of tables, behind its two brackets. -/
def arrayStatement (d : Draft) (s : List Char) : Reading Draft :=
  match key (skipBlanks s) with
  | .error e => .error e
  | .ok (k, rest) =>
      match d.openArray k with
      | .error f => failAt f rest
      | .ok d =>
          match rest with
          | ']' :: ']' :: behind => .ok (d, behind)
          | _ => failAt .arrayTableEnd rest

/-- One statement, or none in front of a comment. -/
def statement (d : Draft) : List Char → Reading Draft
  | '[' :: '[' :: rest => arrayStatement d rest
  | '[' :: rest => tableStatement d rest
  | c :: rest =>
      if isKeyStart c then entryStatement d (c :: rest)
      else if c = '#' then .ok (d, c :: rest)
      else failAt .invalidStatement (c :: rest)
  | [] => .ok (d, [])

/-- The statements of a text. -/
def statements : Nat → Draft → List Char → Except Stop Table
  | 0, d, _ => .ok d.tree
  | bound + 1, d, s =>
      match skipBlanks s with
      | [] => .ok d.tree
      | c :: rest =>
          if c = '\n' then statements bound d rest
          else
            match statement d (c :: rest) with
            | .error e => .error e
            | .ok (d, rest) =>
                match skipComment (skipBlanks rest) with
                | .error e => .error e
                | .ok [] => .ok d.tree
                | .ok (e :: behind) =>
                    if e = '\n' then statements bound d behind
                    else failAt .statementEnd (e :: behind)

/-! ### Texts -/

/-- Every carriage return before a newline dropped. -/
def unifyNewlines : List Char → List Char
  | [] => []
  | '\r' :: '\n' :: rest => '\n' :: unifyNewlines rest
  | c :: rest => c :: unifyNewlines rest

/-- Reads a list of characters. -/
def parseChars (source : List Char) : Except Error Table :=
  let s := unifyNewlines source
  (statements (s.length + 1) Draft.empty s).mapError (Stop.error s)

/-- Reads a text. -/
def parse (text : String) : Except Error Table := parseChars text.toList

end Toml

end LayeredSettings
