/-
LayeredSettings/Proofs/Joining.lean

A layer that joins below all others only fills gaps.

`Value.Within a b` says that the tree `a` shows in the tree `b`: what `a` holds
anywhere `b` holds there too, the same value if it is no table and a table if it
is one.  Laying one and the same tree over both keeps this
(`Value.Within.merge`), although laying over is not associative: an upper tree
that takes a path away takes it from both.

The empty tree is within every tree, so what a provider holds is within what it
holds with one more layer at the bottom (`Provider.within_join`).
-/
import LayeredSettings.Layer
import LayeredSettings.Proofs.Contact

namespace LayeredSettings

/-! ### Trees within trees -/

namespace Value

/-- One tree shows in another: where it holds a value, the other one holds the same value, or a
table if it is a table. -/
def Within (a b : Value) : Prop :=
  ∀ p v, find? p a = some v →
    ∃ w, find? p b = some w ∧ (w = v ∨ v.isTable = true ∧ w.isTable = true)

variable {a b : Value} {p : Path} {v : Value}

theorem Within.find?_of_not_table (h : Within a b) (hfind : find? p a = some v)
    (hv : v.isTable = false) : find? p b = some v := by
  obtain ⟨w, hw, rfl | ⟨ht, -⟩⟩ := h p v hfind
  · exact hw
  · rw [hv] at ht
    cases ht

theorem Within.find?_of_table (h : Within a b) (hfind : find? p a = some v)
    (hv : v.isTable = true) : ∃ w, find? p b = some w ∧ w.isTable = true := by
  obtain ⟨w, hw, rfl | ⟨-, ht⟩⟩ := h p v hfind
  · exact ⟨w, hw, hv⟩
  · exact ⟨w, hw, ht⟩

theorem within_of_nil (t : Table) : Within (.table []) (.table t) := by
  intro p v hfind
  rcases p with - | ⟨key, rest⟩
  · obtain rfl := Option.some.inj hfind
    exact ⟨.table t, find?_nil _, .inr ⟨rfl, rfl⟩⟩
  · simp [find?, Table.get?] at hfind

/-- The same tree laid over both keeps one within the other. -/
theorem Within.merge (h : Within a b) (u : Value) :
    Within (Value.merge a u) (Value.merge b u) := by
  intro p v hfind
  rw [find?_merge] at hfind ⊢
  rcases e : contact p u with - | - | x
  · rw [e] at hfind
    exact h p v hfind
  · rw [e] at hfind
    cases hfind
  · rw [e] at hfind
    change mergeOptional (find? p a) (some x) = some v at hfind
    show ∃ w, mergeOptional (find? p b) (some x) = some w ∧ _
    have htable : v.isTable = x.isTable := isTable_of_mergeOptional hfind
    rcases hx : x.isTable with - | -
    · -- the upper value is no table, so nothing shows through it
      rw [mergeOptional_of_not_table _ hx] at hfind ⊢
      exact ⟨v, hfind, .inl rfl⟩
    · obtain ⟨w, hw⟩ : ∃ w, mergeOptional (find? p b) (some x) = some w := by
        rcases find? p b with - | y
        · exact ⟨x, rfl⟩
        · exact ⟨Value.merge y x, rfl⟩
      exact ⟨w, hw, .inr ⟨htable.trans hx, (isTable_of_mergeOptional hw).trans hx⟩⟩

end Value

/-! ### One more layer at the bottom -/

namespace Provider

theorem foldl_merge_within {s t : Table} (h : Value.Within (.table s) (.table t))
    (layers : List Layer) :
    Value.Within (.table (layers.foldl (fun u l => Table.merge u l.data) s))
      (.table (layers.foldl (fun u l => Table.merge u l.data) t)) := by
  induction layers generalizing s t with
  | nil => exact h
  | cons l rest ih =>
    have hstep := h.merge (.table l.data)
    rw [Value.merge_table, Value.merge_table] at hstep
    exact ih hstep

/-- What a provider holds shows when a layer joins it below. -/
theorem within_join (P : Provider) (l : Layer) :
    Value.Within (.table P.merged) (.table (P.join l).merged) :=
  foldl_merge_within (Value.within_of_nil _) P.layers

theorem find?_join {P : Provider} {p : Path} {v : Value} (h : P.find? p = some v)
    (hv : v.isTable = false) (l : Layer) : (P.join l).find? p = some v :=
  (P.within_join l).find?_of_not_table h hv

theorem exists_find?_join {P : Provider} {p : Path} {v : Value} (h : P.find? p = some v)
    (hv : v.isTable = true) (l : Layer) :
    ∃ w, (P.join l).find? p = some w ∧ w.isTable = true :=
  (P.within_join l).find?_of_table h hv

end Provider

end LayeredSettings
