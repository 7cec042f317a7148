/-
LayeredSettings/Toml/Namespace.lean

The tree that a document builds and what it remembers about its keys.

* `Table.within` goes down a key, creating tables on the way, and changes the
  table it ends in; an array of tables stands for its last table.
* `Marks` holds the keys whose table was declared, and those that a value closed
  for good, with all that is below them.  Keys on the way to a dotted entry are
  pending: they count as declared from the next header on.
-/
import LayeredSettings.Toml.Fault

namespace LayeredSettings

/-! ### Going down -/

/-- Changes the table at a key, creating the tables on the way; `none` where something else is
in the way.  With `throughArrays` an array stands for its last item. -/
def Table.within (throughArrays : Bool) (change : Table → Option Table) :
    Path → Table → Option Table
  | [], t => change t
  | k :: rest, t =>
      match Table.get? t k with
      | none => (Table.within throughArrays change rest []).map fun s => Table.put t k (.table s)
      | some (.table s) =>
          (Table.within throughArrays change rest s).map fun s => Table.put t k (.table s)
      | some (.array items) =>
          match throughArrays, items.getLast? with
          | true, some (.table s) =>
              (Table.within throughArrays change rest s).map fun s =>
                Table.put t k (.array (items.dropLast ++ [.table s]))
          | _, _ => none
      | some _ => none

namespace Toml

/-! ### Marks -/

/-- What a document remembers about its keys. -/
structure Marks where
  declared : List Path
  closed : List Path
  pending : List Path
  deriving Inhabited

namespace Marks

/-- Nothing is remembered at the start. -/
def empty : Marks := ⟨[], [], []⟩

/-- Whether a key was declared. -/
def isDeclared (m : Marks) (key : Path) : Bool := m.declared.contains key

/-- Whether a key or a key above it was closed. -/
def isClosed (m : Marks) (key : Path) : Bool := m.closed.any fun c => c.isPrefixOf key

/-- Remembers that a key was declared. -/
def declare (m : Marks) (key : Path) : Marks := { m with declared := key :: m.declared }

/-- Remembers that a key was closed. -/
def close (m : Marks) (key : Path) : Marks := { m with closed := key :: m.closed }

/-- Remembers that a key is on the way to an entry. -/
def await (m : Marks) (key : Path) : Marks := { m with pending := key :: m.pending }

/-- Pending keys become declared ones. -/
def settle (m : Marks) : Marks :=
  { m with declared := m.pending ++ m.declared, pending := [] }

/-- Forgets a key and all below it. -/
def forget (m : Marks) (key : Path) : Marks :=
  { m with
    declared := m.declared.filter fun k => !key.isPrefixOf k
    closed := m.closed.filter fun k => !key.isPrefixOf k }

end Marks

end Toml

end LayeredSettings
