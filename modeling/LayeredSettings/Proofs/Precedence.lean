/-
LayeredSettings/Proofs/Precedence.lean

The layer applied last wins, path by path.

A layer touches a path if it has a say in what is there: it holds a value at
the path, or it blocks the path by something that is no table at a proper part
of it.  What the merged tree of a provider says of a path is what the highest
layer that touches it says (`Provider.find?_last_applied`):

* a value that is no table is there exactly if this layer holds it,
* nothing is there if this layer blocks the path, or if no layer touches it.

The step is `Provider.find?_merge`, one more layer on top; layers that do not
touch a path leave it alone (`Provider.find?_append_of_untouched`).
-/
import LayeredSettings.Layer
import LayeredSettings.Proofs.Contact
import LayeredSettings.Proofs.PathText
import Mathlib.Data.List.Induction

namespace LayeredSettings

/-! ### Layers and paths -/

namespace Layer

/-- How a path meets a layer. -/
def contact (l : Layer) (p : Path) : Contact := Value.contact p (.table l.data)

/-- A layer has something that is no table at a proper part of a path. -/
def Blocks (l : Layer) (p : Path) : Prop :=
  ∃ q rest w, p = q ++ rest ∧ rest ≠ [] ∧ l.find? q = some w ∧ w.isTable = false

/-- A layer has a say in what is at a path. -/
def Touches (l : Layer) (p : Path) : Prop := (∃ v, l.find? p = some v) ∨ l.Blocks p

variable {l : Layer} {p : Path}

theorem find?_eq_some_iff {v : Value} : l.find? p = some v ↔ l.contact p = .holds v :=
  Value.find?_eq_some_iff_contact

theorem blocks_iff : l.Blocks p ↔ l.contact p = .blocks :=
  Value.contact_eq_blocks_iff.symm

theorem not_touches_iff : ¬ l.Touches p ↔ l.contact p = .misses := by
  rw [Touches, blocks_iff]
  simp only [find?_eq_some_iff]
  rcases l.contact p with - | - | v <;> simp

end Layer

namespace Provider

variable {P : Provider} {p : Path} {l : Layer}

/-! ### One more layer on top -/

theorem find?_merge (P : Provider) (l : Layer) (p : Path) :
    (P.merge l).find? p =
      match l.contact p with
      | .misses => P.find? p
      | .blocks => none
      | .holds v => Value.mergeOptional (P.find? p) (some v) := by
  rw [find?, merged_merge, Table.find?, ← Value.merge_table, Value.find?_merge]
  rfl

theorem find?_merge_of_untouched (h : ¬ l.Touches p) : (P.merge l).find? p = P.find? p := by
  rw [find?_merge, Layer.not_touches_iff.1 h]

/-- Layers that do not touch a path leave it alone. -/
theorem find?_append_of_untouched (below : List Layer) {above : List Layer}
    (h : ∀ m ∈ above, ¬ m.Touches p) :
    (Provider.mk (below ++ above)).find? p = (Provider.mk below).find? p := by
  induction above using List.reverseRecOn with
  | nil => rw [List.append_nil]
  | append_singleton above m ih =>
    -- the highest layer does not touch the path, and the rest follows from those below it
    have hm : ¬ m.Touches p := h m (by simp)
    have habove : ∀ k ∈ above, ¬ k.Touches p := fun k hk => h k (by simp [hk])
    calc (Provider.mk (below ++ (above ++ [m]))).find? p
        = ((Provider.mk (below ++ above)).merge m).find? p := by simp [merge]
      _ = (Provider.mk (below ++ above)).find? p := find?_merge_of_untouched hm
      _ = (Provider.mk below).find? p := ih habove

theorem find?_of_untouched (hp : p ≠ []) (h : ∀ l ∈ P.layers, ¬ l.Touches p) :
    P.find? p = none := by
  have hfind : P.find? p = (Provider.mk []).find? p := find?_append_of_untouched [] h
  rw [hfind]
  rcases p with - | ⟨key, rest⟩
  · exact absurd rfl hp
  · rfl

/-! ### The highest layer that touches a path -/

/-- No layer above this one touches the path. -/
def Highest (P : Provider) (p : Path) (l : Layer) : Prop :=
  ∃ below above, P.layers = below ++ l :: above ∧ l.Touches p ∧ ∀ m ∈ above, ¬ m.Touches p

theorem untouched_or_exists_highest (P : Provider) (p : Path) :
    (∀ l ∈ P.layers, ¬ l.Touches p) ∨ ∃ l, P.Highest p l := by
  rcases P with ⟨layers⟩
  induction layers using List.reverseRecOn with
  | nil => exact .inl fun l hl => absurd hl List.not_mem_nil
  | append_singleton layers m ih =>
    -- the topmost layer touches the path, or the highest one is among the others
    by_cases hm : m.Touches p
    · exact .inr ⟨m, layers, [], rfl, hm, by simp⟩
    · rcases ih with h | ⟨l, below, above, rfl, hl, habove⟩
      · left
        intro l hl
        rcases List.mem_append.1 hl with hl | hl
        · exact h l hl
        · rw [List.mem_singleton.1 hl]
          exact hm
      · right
        refine ⟨l, below, above ++ [m], by simp, hl, ?_⟩
        intro k hk
        rcases List.mem_append.1 hk with hk | hk
        · exact habove k hk
        · rw [List.mem_singleton.1 hk]
          exact hm

/-- What is at a path is decided where the highest layer that touches it goes on top. -/
theorem Highest.find?_eq (h : P.Highest p l) :
    ∃ below : Provider, P.find? p = (below.merge l).find? p := by
  obtain ⟨below, above, hlayers, -, habove⟩ := h
  refine ⟨⟨below⟩, ?_⟩
  have hP : P = ⟨(below ++ [l]) ++ above⟩ := by
    rcases P with ⟨layers⟩
    simpa using hlayers
  rw [hP]
  exact find?_append_of_untouched (below ++ [l]) habove

theorem Highest.find?_of_blocks (h : P.Highest p l) (hb : l.Blocks p) : P.find? p = none := by
  obtain ⟨below, hfind⟩ := h.find?_eq
  rw [hfind, find?_merge, Layer.blocks_iff.1 hb]

/-- The value that the highest layer holds is there, over what the layers below it hold. -/
theorem Highest.find?_of_holds (h : P.Highest p l) {x : Value} (hx : l.find? p = some x) :
    ∃ below : Option Value, P.find? p = Value.mergeOptional below (some x) := by
  obtain ⟨below, hfind⟩ := h.find?_eq
  refine ⟨below.find? p, ?_⟩
  rw [hfind, find?_merge, Layer.find?_eq_some_iff.1 hx]

/-! ### The last applied wins -/

/-- A value is there exactly if the highest layer that touches the path holds one. -/
theorem exists_find?_iff_highest (hp : p ≠ []) :
    (∃ v, P.find? p = some v) ↔ ∃ l, P.Highest p l ∧ ∃ v, l.find? p = some v := by
  constructor
  · rintro ⟨v, hv⟩
    rcases P.untouched_or_exists_highest p with h | ⟨l, hl⟩
    · rw [find?_of_untouched hp h] at hv
      cases hv
    · -- the highest layer that touches the path holds it; were it blocking, nothing would be found
      obtain ⟨-, -, -, hholds | hblocks, -⟩ := id hl
      · exact ⟨l, hl, hholds⟩
      · rw [hl.find?_of_blocks hblocks] at hv
        cases hv
  · rintro ⟨l, hl, x, hx⟩
    obtain ⟨below, hfind⟩ := hl.find?_of_holds hx
    rcases below with - | y
    · exact ⟨x, hfind⟩
    · exact ⟨Value.merge y x, hfind⟩

theorem find?_eq_none_iff_highest (hp : p ≠ []) :
    P.find? p = none ↔
      (∀ l ∈ P.layers, ¬ l.Touches p) ∨ ∃ l, P.Highest p l ∧ l.Blocks p := by
  constructor
  · intro hnone
    rcases P.untouched_or_exists_highest p with h | ⟨l, hl⟩
    · exact .inl h
    · obtain ⟨-, -, -, hholds | hblocks, -⟩ := id hl
      · obtain ⟨v, hv⟩ := (exists_find?_iff_highest hp).2 ⟨l, hl, hholds⟩
        rw [hnone] at hv
        cases hv
      · exact .inr ⟨l, hl, hblocks⟩
  · rintro (h | ⟨l, hl, hblocks⟩)
    · exact find?_of_untouched hp h
    · exact hl.find?_of_blocks hblocks

/-- A value that is no table is there exactly if the highest layer holds it. -/
theorem find?_eq_some_iff_highest (hp : p ≠ []) {v : Value} (hv : v.isTable = false) :
    P.find? p = some v ↔ ∃ l, P.Highest p l ∧ l.find? p = some v := by
  constructor
  · intro hsome
    obtain ⟨l, hl, x, hx⟩ := (exists_find?_iff_highest hp).1 ⟨v, hsome⟩
    obtain ⟨below, hfind⟩ := hl.find?_of_holds hx
    -- the value is no table, so the highest layer gives it alone
    have hx' : x.isTable = false := by
      rw [← Value.isTable_of_mergeOptional (hfind.symm.trans hsome)]
      exact hv
    rw [hsome, Value.mergeOptional_of_not_table below hx'] at hfind
    exact ⟨l, hl, hx.trans hfind.symm⟩
  · rintro ⟨l, hl, hx⟩
    obtain ⟨below, hfind⟩ := hl.find?_of_holds hx
    rw [hfind, Value.mergeOptional_of_not_table below hv]

/-- **The layer applied last wins, path by path.**  The lookup goes by the text
of the path, as callers give it. -/
theorem find?_last_applied (P : Provider) {p : Path} (hp : p ≠ []) (hplain : p.Plain) :
    (∀ v : Value, v.isTable = false →
      (P.find? (Path.ofText p.text) = some v ↔ ∃ l, P.Highest p l ∧ l.find? p = some v)) ∧
    ((∀ l ∈ P.layers, ¬ l.Touches p) ∨ (∃ l, P.Highest p l ∧ l.Blocks p) ↔
      P.find? (Path.ofText p.text) = none ∧ P.contains (Path.ofText p.text) = false) := by
  rw [Path.ofText_text hplain]
  refine ⟨fun v hv => find?_eq_some_iff_highest hp hv, ?_⟩
  have hcontains : P.contains p = false ↔ P.find? p = none := by simp [contains]
  rw [hcontains, and_self]
  exact (find?_eq_none_iff_highest hp).symm

/-- A table, a text over it, and a table over both that opens the path again. -/
def reopened : Provider :=
  ⟨[⟨"lowest", [("a", .table [("b", .integer 1), ("c", .integer 2)])]⟩,
    ⟨"middle", [("a", .text "off")]⟩,
    ⟨"highest", [("a", .table [("b", .integer 3)])]⟩]⟩

/-- The key that is set again is there anew, and the other one stays hidden. -/
theorem find?_reopened :
    (["a", "b"] ≠ [] ∧ Path.Plain ["a", "b"] ∧
      reopened.find? (Path.ofText (Path.text ["a", "b"])) = some (.integer 3)) ∧
    (["a", "c"] ≠ [] ∧ Path.Plain ["a", "c"] ∧
      reopened.find? (Path.ofText (Path.text ["a", "c"])) = none) := by
  have hb : Path.Plain ["a", "b"] := by decide
  have hc : Path.Plain ["a", "c"] := by decide
  refine ⟨⟨by simp, hb, ?_⟩, ⟨by simp, hc, ?_⟩⟩
  · refine ((find?_last_applied reopened (by simp) hb).1 (.integer 3) rfl).2 ?_
    refine ⟨⟨"highest", [("a", .table [("b", .integer 3)])]⟩, ⟨[_, _], [], rfl, ?_, by simp⟩, rfl⟩
    exact .inl ⟨.integer 3, rfl⟩
  · refine ((find?_last_applied reopened (by simp) hc).2.1 (.inr ?_)).1
    -- the highest layer opens the table again and has no such key
    have hblocks : Layer.Blocks ⟨"middle", [("a", .text "off")]⟩ ["a", "c"] :=
      Layer.blocks_iff.2 (by decide)
    refine ⟨⟨"middle", [("a", .text "off")]⟩, ⟨[_], [_], rfl, .inr hblocks, ?_⟩, hblocks⟩
    intro m hm
    rw [List.mem_singleton.1 hm, Layer.not_touches_iff]
    decide

end Provider

end LayeredSettings
