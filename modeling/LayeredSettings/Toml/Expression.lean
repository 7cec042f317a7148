/-
LayeredSettings/Toml/Expression.lean

Values of a document: strings, truth values, arrays, inline tables and scalars.
Arrays and inline tables hold values again, so the readers here call each
other; a bound on the rounds, which a document of that many characters never
reaches, makes them recursive on a number.
-/
import LayeredSettings.Toml.Scalar
import LayeredSettings.Toml.Namespace

namespace LayeredSettings

namespace Toml

/-- An inline table with one more entry, for a key that may have several parts. -/
def addInline (t : Table) (m : Marks) (key : Path) (v : Value) : Except Fault Table :=
  if m.isClosed key then .error (.immutable key)
  else
    let parent := key.dropLast
    let last := key.getLastD ""
    match Table.within false some parent t with
    | none => .error .overwritten
    | some _ =>
        let insert (s : Table) : Option Table :=
          if (Table.get? s last).isSome then none else some (Table.put s last v)
        match Table.within false insert parent t with
        | none => .error (.duplicateKey last)
        | some t => .ok t

mutual

/-- A value. -/
def value : Nat → List Char → Reading Value
  | 0, s => failAt .invalidValue s
  | _ + 1, [] => failAt .invalidValue []
  | bound + 1, c :: rest =>
      if c = '"' ∨ c = '\'' then
        (stringValue c rest).map fun (text, behind) => (.text text, behind)
      else if ['t', 'r', 'u', 'e'].isPrefixOf (c :: rest) then .ok (.boolean true, rest.drop 3)
      else if ['f', 'a', 'l', 's', 'e'].isPrefixOf (c :: rest) then
        .ok (.boolean false, rest.drop 4)
      else if c = '[' then
        match skipFiller rest.length rest with
        | .error e => .error e
        | .ok (']' :: behind) => .ok (.array [], behind)
        | .ok inner => (items bound inner).map fun (vs, behind) => (.array vs, behind)
      else if c = '\x7b' then
        match skipBlanks rest with
        | '\x7d' :: behind => .ok (.table [], behind)
        | inner => (entries bound [] Marks.empty inner).map fun (t, behind) => (.table t, behind)
      else scalar (c :: rest)

/-- The items of an array from one of them on, and the bracket behind them. -/
def items : Nat → List Char → Reading (List Value)
  | 0, s => failAt .openArray s
  | bound + 1, s =>
      match value bound s with
      | .error e => .error e
      | .ok (v, rest) =>
          match skipFiller rest.length rest with
          | .error e => .error e
          | .ok (']' :: behind) => .ok ([v], behind)
          | .ok (',' :: behind) =>
              match skipFiller behind.length behind with
              | .error e => .error e
              | .ok (']' :: behind) => .ok ([v], behind)
              | .ok behind => (items bound behind).map fun (vs, end_) => (v :: vs, end_)
          | .ok behind => failAt .openArray behind

/-- The entries of an inline table from one of them on, and the brace behind them. -/
def entries : Nat → Table → Marks → List Char → Reading Table
  | 0, _, _, s => failAt .openInlineTable s
  | bound + 1, t, m, s =>
      match keyAndEquals s with
      | .error e => .error e
      | .ok (k, rest) =>
          match value bound rest with
          | .error e => .error e
          | .ok (v, rest) =>
              match addInline t m k v with
              | .error f => failAt f rest
              | .ok t =>
                  match skipBlanks rest with
                  | '\x7d' :: behind => .ok (t, behind)
                  | ',' :: behind =>
                      entries bound t (if v.isContainer then m.close k else m) (skipBlanks behind)
                  | behind => failAt .openInlineTable behind

end

/-- A value, with a bound that its text cannot exceed. -/
def valueOf (s : List Char) : Reading Value := value (2 * s.length + 2) s

end Toml

end LayeredSettings
