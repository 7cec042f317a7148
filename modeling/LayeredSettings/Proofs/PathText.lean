/-
LayeredSettings/Proofs/PathText.lean

Paths and their texts.  A path all of whose keys are plain, that is not empty
and without a point, is told by its text: reading the text gives the path back
(`Path.ofText_text`).
-/
import LayeredSettings.Path
import LayeredSettings.Proofs.Cutting

namespace LayeredSettings

/-! ### Plain paths -/

/-- Every key of a path has a character, and none is a point. -/
def Path.Plain (p : Path) : Prop := ∀ key ∈ p, key ≠ "" ∧ '.' ∉ key.toList

instance (p : Path) : Decidable p.Plain := inferInstanceAs (Decidable (∀ key ∈ p, _))

/-- A plain path is what its text is read as. -/
theorem Path.ofText_text {p : Path} (h : p.Plain) : Path.ofText (Path.text p) = p := by
  rcases p with - | ⟨key, rest⟩
  · rfl
  · have hkeys : ∀ k ∈ (key :: rest).map String.toList, ¬ ['.'] <:+: k := by
      intro k hk
      obtain ⟨s, hs, rfl⟩ := List.mem_map.1 hk
      rw [List.singleton_infix_iff]
      exact (h s hs).2
    -- no key holds a point, so the text is cut where it was put together
    have hcut : Text.pieces ['.'] (Path.text (key :: rest)).toList
        = (key :: rest).map String.toList := by
      rw [Path.text, String.toList_intercalate]
      refine Text.pieces_intercalate (by simp) (by simp) hkeys fun k hk => ?_
      rw [List.dropLast_singleton, List.append_nil]
      exact hkeys k (List.mem_of_mem_dropLast hk)
    -- no key is empty, so none of the pieces is dropped
    have hfull : ∀ k ∈ (key :: rest).map String.toList, (k != []) = true := by
      intro k hk
      obtain ⟨s, hs, rfl⟩ := List.mem_map.1 hk
      simpa using (h s hs).1
    rw [Path.ofText, hcut, List.filter_eq_self.2 hfull, List.map_map]
    simp [Function.comp_def]

end LayeredSettings
