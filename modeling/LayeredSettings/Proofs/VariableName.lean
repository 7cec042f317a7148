/-
LayeredSettings/Proofs/VariableName.lean

The names of override variables.

A path is named by its keys in capitals with two underscores between them
(`overrideName`).  Underscores are also characters of keys, so the name alone has to
tell where a key ends.  It does if no key has two underscores in a row and none but
the last ends in one (`Path.Nameable`): of three underscores in a row the first two
then separate two keys, and the third one begins a key, which is how names are cut.

Reading the name of such a path gives the path back (`overridePath?_overrideName`).
The other way round, whatever path is read off a name in ASCII is the name in small
letters, cut where two underscores stand (`lowercase_of_overridePath?`).

Main result: `overrideName_unambiguous`.
-/
import LayeredSettings.Override
import LayeredSettings.Proofs.Cutting

namespace LayeredSettings

variable {start separator : String}

/-! ### Names of paths -/

/-- The name of the variable that overrides a path. -/
def overrideName (start : String) (p : Path) : String :=
  start ++ overrideSeparator.intercalate (p.map String.toUpper)

/-- A small letter, a digit or an underscore. -/
def isKeyCharacter (c : Char) : Bool := c.isLower || c.isDigit || c == '_'

/-- A path that its name tells: keys of small letters, digits and single underscores, of which only
the last one may end in an underscore. -/
structure Path.Nameable (p : Path) : Prop where
  ne_nil : p ≠ []
  ne_empty : ∀ key ∈ p, key ≠ ""
  characters : ∀ key ∈ p, ∀ c ∈ key.toList, isKeyCharacter c = true
  single : ∀ key ∈ p, ¬ overrideSeparator.toList <:+: key.toList
  ends : ∀ key ∈ p.dropLast, key.toList.getLast? ≠ some '_'

instance (p : Path) : Decidable p.Nameable :=
  decidable_of_iff
    (p ≠ [] ∧ (∀ key ∈ p, key ≠ "") ∧ (∀ key ∈ p, key.toList.all isKeyCharacter = true) ∧
      (∀ key ∈ p, ¬ overrideSeparator.toList <:+: key.toList) ∧
      ∀ key ∈ p.dropLast, key.toList.getLast? ≠ some '_')
    ⟨fun ⟨h₁, h₂, h₃, h₄, h₅⟩ => ⟨h₁, h₂, fun key hkey => List.all_eq_true.1 (h₃ key hkey), h₄, h₅⟩,
      fun h => ⟨h.1, h.2, fun key hkey => List.all_eq_true.2 (h.3 key hkey), h.4, h.5⟩⟩

/-! ### Capitals and small letters -/

/-- What holds of the characters of ASCII one by one holds of each of them. -/
theorem of_forall_ascii {motive : Char → Prop} (h : ∀ n < 0x80, motive (Char.ofNat n)) {c : Char}
    (hc : Text.isAscii c = true) : motive c := by
  have hsmall : c.toNat < 0x80 := by simpa [Text.isAscii] using hc
  have hn := h c.toNat hsmall
  rwa [Char.ofNat_toNat] at hn

theorem isAscii_of_isKeyCharacter {c : Char} (h : isKeyCharacter c = true) :
    Text.isAscii c = true := by
  have hbound : c.val.toNat < 0x80 := by
    simp only [isKeyCharacter, Bool.or_eq_true, beq_iff_eq] at h
    rcases h with (h | h) | rfl
    · have hz : c.val ≤ 'z'.val := of_decide_eq_true (Bool.and_eq_true_iff.1 h).2
      exact lt_of_le_of_lt (UInt32.le_iff_toNat_le.1 hz) (by decide)
    · have hnine : c.val ≤ '9'.val := of_decide_eq_true (Bool.and_eq_true_iff.1 h).2
      exact lt_of_le_of_lt (UInt32.le_iff_toNat_le.1 hnine) (by decide)
    · decide
  simpa [Text.isAscii] using hbound

theorem toUpper_of_isKeyCharacter {c : Char} (h : isKeyCharacter c = true) :
    Text.lowerAscii c.toUpper = c ∧ Text.isAscii c.toUpper = true ∧
      (c.toUpper = '_' → c = '_') := by
  -- the characters of keys are ASCII, so there are finitely many to look at
  have hall : ∀ n < 0x80, isKeyCharacter (Char.ofNat n) = true →
      Text.lowerAscii (Char.ofNat n).toUpper = Char.ofNat n ∧
        Text.isAscii (Char.ofNat n).toUpper = true ∧
        ((Char.ofNat n).toUpper = '_' → Char.ofNat n = '_') := by
    decide
  exact of_forall_ascii
    (motive := fun c => isKeyCharacter c = true →
      Text.lowerAscii c.toUpper = c ∧ Text.isAscii c.toUpper = true ∧ (c.toUpper = '_' → c = '_'))
    hall (isAscii_of_isKeyCharacter h) h

theorem eq_underscore_of_lowerAscii {c : Char} (h : Text.isAscii c = true)
    (hc : Text.lowerAscii c = '_') : c = '_' := by
  have hall : ∀ n < 0x80, Text.lowerAscii (Char.ofNat n) = '_' → Char.ofNat n = '_' := by decide
  exact of_forall_ascii (motive := fun c => Text.lowerAscii c = '_' → c = '_') hall h hc

/-- Lower-casing undoes capitals. -/
theorem lowercaseChars_map_toUpper {k : List Char} (h : ∀ c ∈ k, isKeyCharacter c = true) :
    Text.lowercaseChars (k.map Char.toUpper) = k := by
  have hascii : ∀ c ∈ k.map Char.toUpper, Text.isAscii c = true := by
    intro c hc
    obtain ⟨d, hd, rfl⟩ := List.mem_map.1 hc
    exact (toUpper_of_isKeyCharacter (h d hd)).2.1
  have hback : ∀ c ∈ k, (Text.lowerAscii ∘ Char.toUpper) c = id c := fun c hc =>
    (toUpper_of_isKeyCharacter (h c hc)).1
  rw [Text.lowercaseChars_of_ascii _ hascii, List.map_map, List.map_congr_left hback, List.map_id]

/-- Two underscores in a row are there before a change of case if they are there after it, since
nothing but an underscore becomes one. -/
theorem not_infix_map {f : Char → Char} {k : List Char} (hf : ∀ c ∈ k, f c = '_' → c = '_')
    (h : ¬ overrideSeparator.toList <:+: k) : ¬ overrideSeparator.toList <:+: k.map f := by
  intro hinfix
  obtain ⟨l, hl, hsame⟩ := List.infix_map_iff.1 hinfix
  have hunderscores : ['_', '_'] = l.map f := hsame
  -- two underscores come from two characters, and both of them are underscores already
  rcases l with - | ⟨a, - | ⟨b, - | ⟨c, l⟩⟩⟩
  · simp at hunderscores
  · simp at hunderscores
  · obtain ⟨ha, hb⟩ : '_' = f a ∧ '_' = f b := by simpa using hunderscores
    have ha' : a = '_' := hf a (hl.subset (by simp)) ha.symm
    have hb' : b = '_' := hf b (hl.subset (by simp)) hb.symm
    rw [ha', hb'] at hl
    exact h hl
  · simp at hunderscores

/-- Behind a key that does not end in an underscore two underscores do not begin earlier. -/
theorem not_infix_append_underscore {k : List Char} (h : ¬ overrideSeparator.toList <:+: k)
    (hend : k.getLast? ≠ some '_') : ¬ overrideSeparator.toList <:+: k ++ ['_'] := by
  intro hinfix
  rcases List.infix_concat_iff.1 hinfix with hsuffix | hinfix
  · obtain ⟨t, ht⟩ := hsuffix
    have hsplit : (t ++ ['_']) ++ ['_'] = k ++ ['_'] := by
      rw [List.append_assoc]
      exact ht
    have hk : t ++ ['_'] = k := List.append_cancel_right hsplit
    exact hend (by rw [← hk, List.getLast?_concat])
  · exact h hinfix

/-! ### Reading names -/

theorem behindPrefix?_append (start rest : String) :
    behindPrefix? start (start ++ rest) = some rest.toList := by
  have hprefix : start.toList.isPrefixOf (start.toList ++ rest.toList) = true :=
    List.isPrefixOf_iff_prefix.2 (List.prefix_append _ _)
  rw [behindPrefix?, String.toList_append, if_pos hprefix, List.drop_left]

theorem behindPrefix?_eq_some {name : String} {rest : List Char}
    (h : behindPrefix? start name = some rest) : name = start ++ String.ofList rest := by
  rw [behindPrefix?] at h
  split at h
  · rename_i hprefix
    obtain ⟨tail, htail⟩ := List.isPrefixOf_iff_prefix.1 hprefix
    obtain rfl := Option.some.inj h
    apply String.toList_injective
    rw [String.toList_append, String.toList_ofList, ← htail, List.drop_left]
  · cases h

/-- The pieces of a name are its keys in capitals. -/
theorem Path.Nameable.pieces {p : Path} (hp : p.Nameable) :
    Text.pieces overrideSeparator.toList
        (overrideSeparator.intercalate (p.map String.toUpper)).toList =
      p.map fun key => key.toList.map Char.toUpper := by
  have hupper : (p.map String.toUpper).map String.toList =
      p.map fun key => key.toList.map Char.toUpper := by
    rw [List.map_map]
    exact List.map_congr_left fun key _ => String.toList_map
  rw [String.toList_intercalate, hupper]
  refine Text.pieces_intercalate (by decide) (by simpa using hp.ne_nil) ?_ ?_
  · intro k hk
    obtain ⟨key, hkey, rfl⟩ := List.mem_map.1 hk
    exact not_infix_map (fun c hc => (toUpper_of_isKeyCharacter (hp.characters key hkey c hc)).2.2)
      (hp.single key hkey)
  · intro k hk
    rw [← List.map_dropLast] at hk
    obtain ⟨key, hkey, rfl⟩ := List.mem_map.1 hk
    have hmem : key ∈ p := List.mem_of_mem_dropLast hkey
    -- the underscore behind the key is its own capital
    have hall : ∀ c ∈ key.toList ++ ['_'], isKeyCharacter c = true := by
      intro c hc
      rcases List.mem_append.1 hc with hc | hc
      · exact hp.characters key hmem c hc
      · rw [List.mem_singleton.1 hc]
        decide
    have hsingle := not_infix_append_underscore (hp.single key hmem) (hp.ends key hkey)
    have hinfix := not_infix_map (fun c hc => (toUpper_of_isKeyCharacter (hall c hc)).2.2) hsingle
    rwa [List.map_append] at hinfix

/-- Reading the name of a path gives the path back. -/
theorem overridePath?_overrideName {p : Path} (hp : p.Nameable) (start : String) :
    overridePath? start overrideSeparator (overrideName start p) = .ok (some p) := by
  -- going to upper case and back leaves each key as it is
  have hkeys : (p.map fun key => key.toList.map Char.toUpper).map Text.lowercaseChars =
      p.map String.toList := by
    rw [List.map_map]
    exact List.map_congr_left fun key hkey => lowercaseChars_map_toUpper (hp.characters key hkey)
  have hfull : (p.map String.toList).any (·.isEmpty) = false := by
    rw [List.any_eq_false]
    intro k hk
    obtain ⟨key, hkey, rfl⟩ := List.mem_map.1 hk
    simpa using hp.ne_empty key hkey
  have hback : (p.map String.toList).map String.ofList = p := by
    simp [Function.comp_def]
  rw [overridePath?, overrideName, behindPrefix?_append]
  simp only [hp.pieces, hkeys, hfull, hback]
  rfl

/-! ### Names that are read -/

theorem map_intercalate (f : Char → Char) (a : List Char) (ps : List (List Char)) :
    (List.intercalate a ps).map f = List.intercalate (a.map f) (ps.map (List.map f)) := by
  induction ps with
  | nil => rfl
  | cons p rest ih =>
    rcases rest with - | ⟨q, rest⟩
    · simp [List.intercalate_singleton]
    · simp only [List.map_cons, List.intercalate_cons_cons, List.map_append] at ih ⊢
      rw [ih]

/-- A piece of a text in ASCII goes to small letters character by character, and holds no two
underscores in a row afterwards either. -/
theorem lowercaseChars_of_mem_pieces {s k : List Char} (hs : ∀ c ∈ s, Text.isAscii c = true)
    (hk : k ∈ Text.pieces overrideSeparator.toList s) :
    Text.lowercaseChars k = k.map Text.lowerAscii ∧
      ¬ overrideSeparator.toList <:+: k.map Text.lowerAscii := by
  have hne : overrideSeparator.toList ≠ [] := by decide
  have hascii : ∀ c ∈ k, Text.isAscii c = true := fun c hc =>
    hs c ((Text.infix_of_mem_pieces hne hk).subset hc)
  refine ⟨Text.lowercaseChars_of_ascii k hascii, ?_⟩
  exact not_infix_map (fun c hc => eq_underscore_of_lowerAscii (hascii c hc))
    (Text.not_infix_of_mem_pieces hne hk)

/-- A path that is read off a name in ASCII is the rest of the name in small letters, cut where two
underscores stand. -/
theorem lowercase_of_overridePath? {name : String} {p : Path}
    (hascii : ∀ c ∈ name.toList, Text.isAscii c = true)
    (h : overridePath? start overrideSeparator name = .ok (some p)) :
    ∃ rest, name = start ++ rest ∧ overrideSeparator.intercalate p = Text.lowercase rest ∧
      ∀ key ∈ p, key ≠ "" ∧ ¬ overrideSeparator.toList <:+: key.toList := by
  have hne : overrideSeparator.toList ≠ [] := by decide
  rw [overridePath?] at h
  split at h
  · cases h
  · rename_i rest hrest
    obtain rfl := behindPrefix?_eq_some hrest
    have hsmall : ∀ c ∈ rest, Text.isAscii c = true := fun c hc => hascii c (by simp [hc])
    have hkeys : (Text.pieces overrideSeparator.toList rest).map Text.lowercaseChars =
        (Text.pieces overrideSeparator.toList rest).map (List.map Text.lowerAscii) :=
      List.map_congr_left fun k hk => (lowercaseChars_of_mem_pieces hsmall hk).1
    rw [if_neg hne] at h
    simp only [hkeys] at h
    split at h
    · cases h
    · rename_i hfull
      obtain rfl : (List.map String.ofList _) = p := Option.some.inj (Except.ok.inj h)
      refine ⟨String.ofList rest, rfl, ?_, ?_⟩
      · have hsep : overrideSeparator.toList =
            overrideSeparator.toList.map Text.lowerAscii := by decide
        apply String.toList_injective
        rw [String.toList_intercalate, Text.lowercase, String.toList_ofList, String.toList_ofList,
          Text.lowercaseChars_of_ascii rest hsmall, List.map_map]
        simp only [Function.comp_def, String.toList_ofList, List.map_id']
        -- the separator has no letter, so it does not matter whether the pieces go to lower case or
        -- the whole
        calc List.intercalate overrideSeparator.toList
              ((Text.pieces overrideSeparator.toList rest).map (List.map Text.lowerAscii))
          _ = (List.intercalate overrideSeparator.toList
                (Text.pieces overrideSeparator.toList rest)).map Text.lowerAscii := by
              rw [map_intercalate, ← hsep]
          _ = rest.map Text.lowerAscii := by
              rw [← Text.joined_eq_intercalate, Text.joined_pieces _ hne]
      · intro key hkey
        obtain ⟨k, hk, rfl⟩ := List.mem_map.1 hkey
        rw [List.any_eq_true, not_exists] at hfull
        refine ⟨fun hempty => hfull k ⟨hk, ?_⟩, ?_⟩
        · simpa using hempty
        · obtain ⟨piece, hpiece, rfl⟩ := List.mem_map.1 hk
          rw [String.toList_ofList]
          exact (lowercaseChars_of_mem_pieces hsmall hpiece).2

/-! ### Names without ambiguity -/

/-- The name of a path is read as that path, so that two paths never share a variable.  A name in
ASCII that is read as a path is, behind its beginning, the path in capitals or small letters. -/
theorem overrideName_unambiguous (start : String) :
    (∀ p : Path, p.Nameable →
      overridePath? start overrideSeparator (overrideName start p) = .ok (some p)) ∧
    (∀ p q : Path, p.Nameable → q.Nameable → overrideName start p = overrideName start q → p = q) ∧
    ∀ (name : String) (p : Path), (∀ c ∈ name.toList, Text.isAscii c = true) →
      overridePath? start overrideSeparator name = .ok (some p) →
      ∃ rest, name = start ++ rest ∧ overrideSeparator.intercalate p = Text.lowercase rest ∧
        ∀ key ∈ p, key ≠ "" ∧ ¬ overrideSeparator.toList <:+: key.toList := by
  refine ⟨fun p hp => overridePath?_overrideName hp start, ?_,
    fun _ _ hascii hread => lowercase_of_overridePath? hascii hread⟩
  intro p q hp hq hsame
  -- a name that two paths share is read back as both of them
  have hread : (Except.ok (some p) : Except Escape (Option Path)) = .ok (some q) := by
    rw [← overridePath?_overrideName hp start, hsame, overridePath?_overrideName hq start]
  exact Option.some.inj (Except.ok.inj hread)

/-- Of three underscores in a row the last one begins a key, and one at the end of a name is a part
of the last key. -/
theorem overrideName_unambiguous_edges :
    overridePath? overridePrefix overrideSeparator (overrideName overridePrefix ["a", "_b_"]) =
        .ok (some ["a", "_b_"]) ∧
      overrideName overridePrefix ["a", "_b_"] ≠ overrideName overridePrefix ["a", "b"] ∧
      ∃ rest, overridePrefix ++ "A___B_" = overridePrefix ++ rest ∧
        overrideSeparator.intercalate ["a", "_b_"] = Text.lowercase rest ∧
        ∀ key ∈ ["a", "_b_"], key ≠ "" ∧ ¬ overrideSeparator.toList <:+: key.toList := by
  obtain ⟨hread, hinjective, hback⟩ := overrideName_unambiguous overridePrefix
  have hedges : Path.Nameable ["a", "_b_"] := by decide
  have hplain : Path.Nameable ["a", "b"] := by decide
  refine ⟨hread _ hedges, ?_, hback (overridePrefix ++ "A___B_") _
    (List.all_eq_true.1 (by decide)) ?_⟩
  · intro hsame
    have hpath : (["a", "_b_"] : Path) = ["a", "b"] := hinjective _ _ hedges hplain hsame
    exact absurd hpath (by decide)
  · have hname : overrideName overridePrefix ["a", "_b_"] = overridePrefix ++ "A___B_" := by
      decide +kernel
    rw [← hname]
    exact hread _ hedges

example : overrideName overridePrefix ["a_", "b"] = overrideName overridePrefix ["a", "_b"] := by
  decide +kernel

end LayeredSettings
