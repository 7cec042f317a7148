/-
LayeredSettings/Log/Bindings.lean

Values that every event of a context carries.  A block binds some keys and, when
it ends, gives each of them back what it was bound to when the block began, or
nothing; keys that the block did not bind stay as they are.
-/
import LayeredSettings.Value

namespace LayeredSettings

namespace Log

/-- What is bound, and what each open block has to give back, the innermost first. -/
structure Bindings where
  bound : Table
  blocks : List (List (String × Option Value))
  deriving DecidableEq, Inhabited

namespace Bindings

/-- Nothing is bound. -/
def empty : Bindings := ⟨[], []⟩

/-- A key bound to a value, or to nothing. -/
def assign (t : Table) (key : String) : Option Value → Table
  | some v => Table.put t key v
  | none => t.filter fun e => e.1 != key

/-- Keys bound to values, or to nothing, one after the other. -/
def assignAll (t : Table) (values : List (String × Option Value)) : Table :=
  values.foldl (fun t e => assign t e.1 e.2) t

/-- Values bound to keys. -/
def bind (b : Bindings) (values : Table) : Bindings :=
  { b with bound := assignAll b.bound (values.map fun e => (e.1, some e.2)) }

/-- Keys bound to nothing. -/
def unbind (b : Bindings) (keys : List String) : Bindings :=
  { b with bound := assignAll b.bound (keys.map fun key => (key, none)) }

/-- A block that binds values begins. -/
def enter (b : Bindings) (values : Table) : Bindings :=
  { b.bind values with
    blocks := values.map (fun e => (e.1, Table.get? b.bound e.1)) :: b.blocks }

/-- The innermost block ends. -/
def exit (b : Bindings) : Bindings :=
  match b.blocks with
  | [] => b
  | saved :: rest => ⟨assignAll b.bound saved, rest⟩

end Bindings

end Log

end LayeredSettings
