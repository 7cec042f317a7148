/-
LayeredSettings/Layer.lean

Named layers of configuration in order of priority.  A `Provider` is a list of
layers, lowest priority first; all it says is computed from that list:

* `merged` lays each layer over the ones before it;
* `find?` and `contains` look in the merged tree;
* `origin?` asks the layers one by one, highest priority first, which of them
  holds a value at a path, regardless of the others.

`merge` adds a layer on top and `join` one at the bottom; neither changes the
provider it starts from.
-/
import LayeredSettings.Path
import LayeredSettings.Value.Merge

namespace LayeredSettings

/-- A named source of configuration. -/
structure Layer where
  name : String
  data : Table
  deriving DecidableEq, Inhabited

/-- The number of entries at the top of a layer. -/
def Layer.size (l : Layer) : Nat := l.data.length

/-- The value that a layer alone holds at a path. -/
def Layer.find? (l : Layer) (p : Path) : Option Value := l.data.find? p

/-- Layers in order of priority, the lowest first. -/
structure Provider where
  layers : List Layer
  deriving DecidableEq, Inhabited

namespace Provider

/-- The names of the layers, the lowest first. -/
def names (p : Provider) : List String := p.layers.map (·.name)

/-- The provider with one more layer above all others. -/
def merge (p : Provider) (l : Layer) : Provider := ⟨p.layers ++ [l]⟩

/-- The provider with one more layer below all others. -/
def join (p : Provider) (l : Layer) : Provider := ⟨l :: p.layers⟩

/-- One tree from all layers, each laid over the ones before it. -/
def merged (p : Provider) : Table := p.layers.foldl (fun t l => Table.merge t l.data) []

/-- The effective value at a path. -/
def find? (p : Provider) (path : Path) : Option Value := p.merged.find? path

/-- Whether there is an effective value at a path. -/
def contains (p : Provider) (path : Path) : Bool := (p.find? path).isSome

/-- The name of the layer of highest priority that holds a value at a path. -/
def origin? (p : Provider) (path : Path) : Option String :=
  (p.layers.reverse.find? fun l => (l.find? path).isSome).map (·.name)

theorem merged_merge (p : Provider) (l : Layer) :
    (p.merge l).merged = Table.merge p.merged l.data := by
  simp [merged, merge]

end Provider

end LayeredSettings
