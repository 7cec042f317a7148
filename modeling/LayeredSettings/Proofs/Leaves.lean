/-
LayeredSettings/Proofs/Leaves.lean

The leaves of a document.

A leaf of the layer data has the text of its path, and in a document of the shape
of the schema it is an option at this path or a section without entries
(`Settings.option_of_mem_leaves`).  The keys of the schema are plain, so the text
tells the path.
-/
import LayeredSettings.Proofs.PathText
import LayeredSettings.Proofs.RoundTrip

namespace LayeredSettings

/-! ### Texts of paths -/

namespace Path

theorem extend_of_ne_empty {path : String} (h : path ≠ "") (key : String) :
    extend path key = path ++ "." ++ key := by
  simp [extend, h]

theorem foldl_extend {path : String} (h : path ≠ "") (p : Path) :
    p.foldl extend path = ".".intercalate (path :: p) := by
  induction p generalizing path with
  | nil => simp
  | cons key rest ih =>
    -- the path has a text already, so a point goes before the key
    have hne : path ++ "." ++ key ≠ "" := by
      rw [Ne, String.append_eq_empty_iff, String.append_eq_empty_iff]
      rintro ⟨⟨rfl, -⟩, -⟩
      exact h rfl
    rw [List.foldl_cons, extend_of_ne_empty h, ih hne]
    apply String.toList_injective
    rcases rest with - | ⟨next, rest⟩ <;> simp [String.toList_intercalate, List.intercalate]

/-- A path whose keys are plain, extended key by key from nothing, is its text. -/
theorem foldl_extend_empty {p : Path} (h : p.Plain) : p.foldl extend "" = Path.text p := by
  rcases p with - | ⟨key, rest⟩
  · rfl
  · have hfirst : extend "" key = key := rfl
    rw [List.foldl_cons, hfirst, foldl_extend (h key List.mem_cons_self).1, text]

end Path

/-! ### Leaves -/

namespace Table

theorem mem_leaves {path : String} {t : Table} {e : String × Value} :
    e ∈ leaves path t ↔ ∃ f ∈ t, e ∈ Value.leaves (Path.extend path f.1) f.2 := by
  induction t with
  | nil => simp [leaves]
  | cons f rest ih =>
    rcases f with ⟨key, v⟩
    simp [leaves, ih]

/-- What is left of a table is left of its entries that are not null. -/
theorem mem_present {t : Table} {f : String × Value} (h : f ∈ present t) :
    ∃ v, (f.1, v) ∈ t ∧ v ≠ .null ∧ f.2 = v.present := by
  induction t with
  | nil => cases h
  | cons g rest ih =>
    rcases g with ⟨key, v⟩
    -- an entry that is shown comes from this entry or from one behind it
    have hrest : f ∈ present rest →
        ∃ v', (f.1, v') ∈ (key, v) :: rest ∧ v' ≠ .null ∧ f.2 = v'.present := by
      intro h
      obtain ⟨w, hw, hne, hf⟩ := ih h
      exact ⟨w, List.mem_cons_of_mem _ hw, hne, hf⟩
    by_cases hv : v = .null
    · rw [hv, present_cons_null] at h
      exact hrest h
    · rw [present_cons hv] at h
      rcases List.mem_cons.1 h with rfl | h
      · exact ⟨v, List.mem_cons_self, hv, rfl⟩
      · exact hrest h

theorem get?_of_mem {t : Table} (hnodup : (keys t).Nodup) {key : String} {v : Value}
    (h : (key, v) ∈ t) : get? t key = some v := by
  induction t with
  | nil => cases h
  | cons f rest ih =>
    rcases f with ⟨k, w⟩
    rw [keys_cons, List.nodup_cons] at hnodup
    rcases List.mem_cons.1 h with heq | hrest
    · obtain ⟨rfl, rfl⟩ := Prod.mk.inj heq
      simp [get?]
    · -- keys are distinct, so the first entry does not hide this one
      have hne : k ≠ key := by
        rintro rfl
        exact hnodup.1 (List.mem_map.2 ⟨_, hrest, rfl⟩)
      simpa [get?, hne] using ih hnodup.2 hrest

end Table

theorem Value.leaves_of_not_table {v : Value} (h : v.isTable = false) (path : String) :
    v.leaves path = [(path, v)] := by
  cases v <;> first | rfl | cases h

/-- A leaf of a table is the table itself, without entries, or a leaf of an entry. -/
theorem Value.mem_leaves_table {path : String} {t : Table} {e : String × Value}
    (h : e ∈ Value.leaves path (.table t)) :
    (t = [] ∧ e = (path, .table [])) ∨ e ∈ Table.leaves path t := by
  rcases t with - | ⟨f, t⟩
  · exact .inl ⟨rfl, List.mem_singleton.1 h⟩
  · exact .inr h

/-- A leaf of what is set of a document is an option at its path, or a table without entries. -/
theorem Schema.Sound.option_of_mem_leaves {s : Schema} (hs : s.Sound)
    {fits : Kind → Presence → Value → Prop}
    (hplain : ∀ kind presence v, fits kind presence v → v.isTable = false) {d : Value}
    (hd : s.Shaped fits d) (hset : d ≠ .null) {path : String} {e : String × Value}
    (he : e ∈ d.present.leaves path) :
    e.2 = .table [] ∨ ∃ p kind presence initial, e.1 = p.foldl Path.extend path ∧
      s.below? p = some (.option kind presence initial) ∧ d.find? p = some e.2 ∧
      e.2 ≠ .null := by
  induction s using Schema.induction generalizing d path with
  | option kind presence initial =>
    cases hd with
    | option h =>
      have hv := hplain _ _ _ h
      rw [Value.present_of_not_table hv, Value.leaves_of_not_table hv, List.mem_singleton] at he
      subst he
      exact .inr ⟨[], kind, presence, initial, rfl, rfl, Value.find?_nil d, hset⟩
  | group title optional members ih =>
    obtain ⟨hdistinct, hsound⟩ := sound_group_iff.1 hs
    cases hd with
    | unset => exact absurd rfl hset
    | group hkeys hmembers =>
      rename_i entries
      rw [Value.present_table] at he
      rcases Value.mem_leaves_table he with ⟨-, rfl⟩ | he
      · exact .inl rfl
      · -- the leaf is below an entry, and the keys of a document are those of the members
        obtain ⟨⟨key, w⟩, hf, he⟩ := Table.mem_leaves.1 he
        obtain ⟨v, hv, hne, rfl⟩ := Table.mem_present hf
        have hkey : key ∈ memberKeys members := hkeys ▸ List.mem_map.2 ⟨_, hv, rfl⟩
        obtain ⟨m, hm, rfl⟩ := List.mem_map.1 hkey
        have hget := Table.get?_of_mem (hkeys ▸ hdistinct.1) hv
        rcases ih m hm (hsound m hm) (hmembers m hm v hget) hne he with
          hempty | ⟨p, kind, presence, initial, htext, hbelow, hfind, hleaf⟩
        · exact .inl hempty
        · refine .inr ⟨m.1.key :: p, kind, presence, initial, htext, ?_, ?_, hleaf⟩
          · rw [below?_cons hdistinct.1 hm, hbelow]
          · simpa [Value.find?, hget] using hfind

namespace Settings

/-- The keys that lead to an option are plain. -/
theorem plain_of_option {p : Path} {kind : Kind} {presence : Presence} {initial : Value}
    (h : schema.below? p = some (.option kind presence initial)) : p.Plain := by
  have hall : ∀ o ∈ schema.options, o.path.Plain := by decide +kernel
  exact hall _ (Schema.mem_options h)

/-- A leaf of a document is an option, which the text of its path tells, or a section without
entries. -/
theorem option_of_mem_leaves {d : Document} (hd : schema.Fits d) {e : String × Value}
    (he : e ∈ leaves d) :
    e.2 = .table [] ∨ ∃ p kind presence initial, Path.ofText e.1 = p ∧
      schema.below? p = some (.option kind presence initial) ∧ d.find? p = some e.2 ∧
      e.2 ≠ .null := by
  obtain ⟨entries, rfl⟩ := Schema.Shaped.exists_table hd
  -- a document of which nothing is set has no leaves, so its leaves are those of a table
  have hleaf : e.2 = .table [] ∨ e ∈ Value.leaves "" (Value.table entries).present := by
    rw [leaves, layerData, Value.present_table] at he
    rw [Value.present_table]
    rcases hp : Table.present entries with - | ⟨f, t⟩
    · rw [hp] at he
      cases he
    · rw [hp] at he
      exact .inr he
  rcases hleaf with hempty | hleaf
  · exact .inl hempty
  · rcases schema_sound.option_of_mem_leaves
      (fun _ _ _ ⟨_, hw⟩ => Schema.isTable_of_readOption hw) hd nofun hleaf with
      hempty | ⟨p, kind, presence, initial, htext, hbelow, hfind, hset⟩
    · exact .inl hempty
    · have hplain := plain_of_option hbelow
      refine .inr ⟨p, kind, presence, initial, ?_, hbelow, hfind, hset⟩
      rw [htext, Path.foldl_extend_empty hplain, Path.ofText_text hplain]

end Settings

end LayeredSettings
