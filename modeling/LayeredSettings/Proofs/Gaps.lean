/-
LayeredSettings/Proofs/Gaps.lean

What one more layer at the bottom does to a tree.

Merging is not associative, so the tree with the new layer is not the layer under
the old tree: what an upper layer wipes out and opens again is lost to the new
layer too.  What is true is said by `Value.Filled`, path by path
(`Value.Filled.find?`): at each path the two trees agree, or the old one holds
nothing and the new one holds what the layer holds, or all three hold tables.

Main result: `Provider.join_fills_gaps`.
-/
import LayeredSettings.Proofs.Filling
import LayeredSettings.Proofs.Precedence

namespace LayeredSettings

/-! ### Filled trees, path by path -/

namespace Value

/-- What is below a path has its gaps filled from what is below the same path. -/
theorem Filled.find? {below v w : Option Value} (h : Filled below v w) (p : Path) :
    Filled (below.bind (Value.find? p)) (v.bind (Value.find? p)) (w.bind (Value.find? p)) := by
  induction h generalizing p with
  | same below v => exact .same _ _
  -- what fills a gap is not there without the lower tree, nor is anything below it
  | gap v =>
    rw [Option.bind_some, Option.bind_none]
    rcases Value.find? p v with - | x
    · exact .same _ _
    · exact .gap x
  | @tables below s t h ih =>
    rcases p with - | ⟨key, rest⟩
    · simpa using Filled.tables h
    · simp only [Option.bind_some, Table.find?_cons]
      exact ih key rest

/-- What is no table stays as it is. -/
theorem Filled.eq_of_not_table {below w : Option Value} {v : Value} (h : Filled below (some v) w)
    (hv : v.isTable = false) : w = some v := by
  cases h with
  | same => rfl
  | tables => cases hv

/-- Where something is, something stays. -/
theorem Filled.exists_of_some {below w : Option Value} {v : Value} (h : Filled below (some v) w) :
    ∃ x, w = some x := by
  cases h with
  | same => exact ⟨_, rfl⟩
  | tables => exact ⟨_, rfl⟩

/-- A table stays a table, with all its keys. -/
theorem Filled.exists_table {below w : Option Value} {s : Table}
    (h : Filled below (some (.table s)) w) :
    ∃ t, w = some (.table t) ∧ Table.keys s ⊆ Table.keys t := by
  cases h with
  | same => exact ⟨s, rfl, List.Subset.refl _⟩
  | @tables _ _ t h =>
    refine ⟨t, rfl, fun key hkey => ?_⟩
    obtain ⟨v, hv⟩ := Table.exists_get?_of_mem_keys hkey
    have hfilled := h key
    rw [hv] at hfilled
    -- a value is there, so the key is no gap
    obtain ⟨w, hw⟩ := hfilled.exists_of_some
    exact Table.mem_keys_of_get? hw

/-- What is new comes from below. -/
theorem Filled.eq_below {below : Option Value} {v : Value} (h : Filled below none (some v)) :
    below = some v := by
  cases h with
  | gap => rfl

end Value

/-! ### One more layer at the bottom -/

namespace Provider

/-- What a provider holds at a path, with a layer joined below, has its gaps filled from what the
layer holds there. -/
theorem filled_find?_join (P : Provider) (l : Layer) (p : Path) :
    Value.Filled (l.find? p) (P.find? p) ((P.join l).find? p) := by
  have hfilled := (P.filled_join l).find? p
  simp only [Option.bind_some] at hfilled
  exact hfilled

/-- **A layer that joins at the bottom only fills gaps.**  What the provider holds stays: the same
value, or a table with its keys if it is a table.  What is new is the value that the layer holds at
the same path. -/
theorem join_fills_gaps (P : Provider) (l : Layer) (p : Path) :
    (∀ v, P.find? p = some v → v.isTable = false → (P.join l).find? p = some v) ∧
    (∀ s, P.find? p = some (.table s) →
      ∃ t, (P.join l).find? p = some (.table t) ∧ Table.keys s ⊆ Table.keys t) ∧
    (∀ v, P.find? p = none → (P.join l).find? p = some v → l.find? p = some v) := by
  -- the three parts are the three cases of this relation, each where only one is left
  have hfilled := P.filled_find?_join l p
  refine ⟨fun v hv hplain => ?_, fun s hs => ?_, fun v hnone hv => ?_⟩
  · rw [hv] at hfilled
    exact hfilled.eq_of_not_table hplain
  · rw [hs] at hfilled
    exact hfilled.exists_table
  · rw [hnone, hv] at hfilled
    exact hfilled.eq_below

/-- A layer below `reopened`: some keys of it are set or hidden there, one table is new. -/
def lowermost : Layer :=
  ⟨"lowermost",
    [("a", .table [("b", .integer 9), ("d", .integer 4)]), ("e", .table [("f", .integer 5)])]⟩

/-- The key that is set stays, the table above it stays a table, and the new table is there; the
key of the layer that the text above wipes out stays hidden. -/
theorem join_fills_gaps_reopened :
    (reopened.find? ["a", "b"] = some (.integer 3) ∧
      (reopened.join lowermost).find? ["a", "b"] = some (.integer 3)) ∧
    (reopened.find? ["a"] = some (.table [("b", .integer 3)]) ∧
      ∃ t, (reopened.join lowermost).find? ["a"] = some (.table t) ∧ "b" ∈ Table.keys t) ∧
    (reopened.find? ["e", "f"] = none ∧
      (reopened.join lowermost).find? ["e", "f"] = some (.integer 5) ∧
      lowermost.find? ["e", "f"] = some (.integer 5)) ∧
    (reopened.join lowermost).find? ["a", "d"] = none := by
  have hset : reopened.find? ["a", "b"] = some (.integer 3) := by decide
  have htable : reopened.find? ["a"] = some (.table [("b", .integer 3)]) := by decide
  have hgap : reopened.find? ["e", "f"] = none := by decide
  have hnew : (reopened.join lowermost).find? ["e", "f"] = some (.integer 5) := by decide
  obtain ⟨t, ht, hkeys⟩ := (join_fills_gaps reopened lowermost ["a"]).2.1 _ htable
  exact ⟨⟨hset, (join_fills_gaps reopened lowermost ["a", "b"]).1 _ hset rfl⟩,
    ⟨htable, t, ht, hkeys (by decide)⟩,
    ⟨hgap, hnew, (join_fills_gaps reopened lowermost ["e", "f"]).2.2 _ hgap hnew⟩, by decide⟩

end Provider

end LayeredSettings
