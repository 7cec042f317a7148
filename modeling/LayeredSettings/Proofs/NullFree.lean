/-
LayeredSettings/Proofs/NullFree.lean

Trees without nulls.

A null stands in documents for what is not set, and nothing that a user writes
stands for it: a TOML document has no null, neither has the value of an override,
and the defaults leave out what is not set.  So no null is found in the layers of
a resolution nor in their merged tree (`nullFree_join`).

A table is without nulls if the values of its keys are (`Value.nullFree_table`);
hence putting a value under a key, going down to a table to change it, assigning
and merging all keep a tree without nulls.  What a TOML reader returns is
shown to be without nulls reader by reader, for values, items and entries in one
induction on the bound of their rounds.
-/
import LayeredSettings.Proofs.Assignment
import LayeredSettings.Proofs.OverrideText
import LayeredSettings.Proofs.Straying

namespace LayeredSettings

/-! ### Values without nulls -/

namespace Value

/-- No path ends at a null. -/
def NullFree (v : Value) : Prop := ∀ p, v.find? p ≠ some .null

variable {v w : Value} {t : Table} {key : String} {p : Path}

theorem nullFree_of_not_table (h : v.isTable = false) (hnull : v ≠ .null) : v.NullFree := by
  intro p
  rcases p with - | ⟨key, rest⟩
  · rw [find?_nil]
    exact fun heq => hnull (Option.some.inj heq)
  · rw [find?_cons_of_not_table h]
    nofun

/-- A table is without nulls if the values of its keys are. -/
theorem nullFree_table :
    (table t).NullFree ↔ ∀ key v, Table.get? t key = some v → v.NullFree := by
  constructor
  · intro h key v hv p
    have hbelow := h (key :: p)
    rwa [Table.find?_cons, hv] at hbelow
  · -- a path either ends at the table, which is not null, or goes on below one of its keys
    intro h p
    rcases p with - | ⟨key, rest⟩
    · rw [find?_nil]
      nofun
    · rw [Table.find?_cons]
      rcases e : Table.get? t key with - | v
      · nofun
      · exact h key v e rest

theorem nullFree_nil : (table []).NullFree :=
  nullFree_table.2 nofun

theorem nullFree_array (vs : List Value) : (array vs).NullFree :=
  nullFree_of_not_table rfl nofun

theorem NullFree.get? (h : (table t).NullFree) (hv : Table.get? t key = some v) : v.NullFree :=
  nullFree_table.1 h key v hv

theorem NullFree.cons (h : (table t).NullFree) (hv : v.NullFree) :
    (table ((key, v) :: t)).NullFree := by
  rw [nullFree_table]
  intro k x hx
  rw [Table.get?] at hx
  split at hx
  · exact Option.some.inj hx ▸ hv
  · exact h.get? hx

theorem NullFree.put (h : (table t).NullFree) (hv : v.NullFree) :
    (table (Table.put t key v)).NullFree := by
  rw [nullFree_table]
  intro k x hx
  rw [Table.get?_put] at hx
  split at hx
  · exact Option.some.inj hx ▸ hv
  · exact h.get? hx

/-- What lies over a tree brings its own values, and what shows below it is without nulls too. -/
theorem NullFree.merge (hv : v.NullFree) (hw : w.NullFree) : (Value.merge v w).NullFree := by
  intro p
  rw [find?_merge]
  rcases e : contact p w with - | - | x
  · exact hv p
  · nofun
  · -- the upper tree holds a value at the path; a null can only come out of it if that value is
    -- null
    have hx : x ≠ .null := fun h => hw p (h ▸ find?_eq_some_iff_contact.2 e)
    intro hnull
    change mergeOptional (find? p v) (some x) = some .null at hnull
    have htable := isTable_of_mergeOptional hnull
    rw [mergeOptional_of_not_table _ htable.symm] at hnull
    exact hx (Option.some.inj hnull)

/-- The entries of what is there, if it is a table, are without nulls. -/
theorem nullFree_entries {v : Option Value} (h : ∀ x, v = some x → x.NullFree) :
    (table (entries v)).NullFree := by
  rcases noTable_or_eq_table v with hv | ⟨t, rfl⟩
  · rw [hv.entries]
    exact nullFree_nil
  · exact h _ rfl

theorem NullFree.assign (h : (table t).NullFree) (hv : v.NullFree) :
    (table (Table.assign t p v)).NullFree := by
  induction p generalizing t with
  | nil => exact h
  | cons key rest ih =>
    rw [assign_cons]
    refine h.put ?_
    rcases rest with - | ⟨next, rest⟩
    · exact hv
    · exact ih (nullFree_entries fun x hx => h.get? hx)

/-- Changing a table further down keeps a tree without nulls if the change does. -/
theorem NullFree.within {through : Bool} {change : Table → Option Table}
    (hchange : ∀ s s', (table s).NullFree → change s = some s' → (table s').NullFree)
    {t' : Table} (h : (table t).NullFree)
    (hwithin : Table.within through change p t = some t') : (table t').NullFree := by
  induction p generalizing t t' with
  | nil => exact hchange t t' h hwithin
  | cons key rest ih =>
    rw [Table.within] at hwithin
    split at hwithin
    · obtain ⟨s, hs, rfl⟩ := Option.map_eq_some_iff.1 hwithin
      exact h.put (ih nullFree_nil hs)
    · rename_i s hget
      obtain ⟨s', hs', rfl⟩ := Option.map_eq_some_iff.1 hwithin
      exact h.put (ih (h.get? hget) hs')
    · -- an array holds no path, whatever its tables become
      split at hwithin
      · obtain ⟨s', -, rfl⟩ := Option.map_eq_some_iff.1 hwithin
        exact h.put (nullFree_array _)
      · cases hwithin
    · cases hwithin

end Value

/-! ### TOML documents -/

namespace Toml

open Value (NullFree nullFree_of_not_table nullFree_nil nullFree_array)

variable {α β : Type} {bound : Nat} {s rest : List Char} {v : Value} {t : Table}

/-- Whatever a reader returns has a property. -/
def Yields (P : α → Prop) (r : Reading α) : Prop := ∀ x rest, r = .ok (x, rest) → P x

theorem yields_ok {P : α → Prop} {x : α} (h : P x) : Yields P (.ok (x, rest)) := by
  rintro y rest' ⟨⟩
  exact h

theorem yields_error {P : α → Prop} (e : Stop) : Yields P (.error e : Reading α) := nofun

theorem yields_failAt {P : α → Prop} (f : Fault) (s : List Char) :
    Yields P (failAt f s : Reading α) := nofun

theorem Yields.map {P : α → Prop} {Q : β → Prop} {r : Reading α} (h : Yields P r) {f : α → β}
    (hf : ∀ x, P x → Q (f x)) : Yields Q (r.map fun (x, rest) => (f x, rest)) := by
  rcases r with e | ⟨x, rest⟩
  · exact yields_error e
  · exact yields_ok (hf x (h x rest rfl))

/-! #### Scalars -/

theorem nullFree_dateValue? {r : Reading Value} (h : dateValue? s = some r) :
    Yields NullFree r := by
  rw [dateValue?] at h
  split at h
  · cases h
  · split at h
    · cases h
      exact yields_failAt _ _
    · split at h
      · cases h
        exact yields_ok (nullFree_of_not_table rfl (by simp))
      · cases h
        exact yields_ok (nullFree_of_not_table rfl (by simp))

theorem nullFree_decimal? {r : Reading Value} (h : decimal? s = some r) : Yields NullFree r := by
  simp only [decimal?] at h
  split at h
  · cases h
  · split at h
    · -- an integer, which may have too many digits; a float else
      split at h
      · cases h
        exact yields_error _
      · cases h
        exact yields_ok (nullFree_of_not_table rfl (by simp))
    · cases h
      exact yields_ok (nullFree_of_not_table rfl (by simp))

theorem nullFree_of_namedFloat? (h : namedFloat? s = some (v, rest)) : v.NullFree := by
  simp only [namedFloat?] at h
  split at h
  · cases h
    exact nullFree_of_not_table rfl (by simp)
  · split at h
    · cases h
      exact nullFree_of_not_table rfl (by simp)
    · cases h

theorem nullFree_scalar (s : List Char) : Yields NullFree (scalar s) := by
  rw [scalar]
  -- the kinds of scalars in the order in which they are tried: none of them is a null
  split
  · exact nullFree_dateValue? ‹_›
  · split
    · exact yields_ok (nullFree_of_not_table rfl (by simp))
    · split
      · exact yields_ok (nullFree_of_not_table rfl (by simp))
      · split
        · exact nullFree_decimal? ‹_›
        · split
          · exact yields_ok (nullFree_of_namedFloat? ‹_›)
          · exact yields_failAt _ _

/-! #### Values -/

/-- A table with one more entry, unless the key is there. -/
theorem nullFree_insert {last : String} {s' : Table} (hs : (Value.table t).NullFree)
    (hv : v.NullFree)
    (h : (if (Table.get? t last).isSome then none else some (Table.put t last v)) = some s') :
    (Value.table s').NullFree := by
  split at h
  · cases h
  · exact Option.some.inj h ▸ hs.put hv

theorem nullFree_addInline {m : Marks} {key : Path} {t' : Table}
    (ht : (Value.table t).NullFree) (hv : v.NullFree) (h : addInline t m key v = .ok t') :
    (Value.table t').NullFree := by
  simp only [addInline] at h
  split at h
  · cases h
  · split at h
    · cases h
    · split at h
      · cases h
      · rename_i hwithin
        cases h
        -- the table that the key ends in gets one entry, and its value has no null
        exact ht.within (fun s s' hs hs' => nullFree_insert hs hv hs') hwithin

theorem nullFree_value_succ
    (hentries : ∀ t m s, (Value.table t).NullFree →
      Yields (fun t => (Value.table t).NullFree) (entries bound t m s))
    (s : List Char) : Yields NullFree (value (bound + 1) s) := by
  rcases s with - | ⟨c, rest⟩
  · exact yields_failAt _ _
  · rw [value]
    split
    · -- a string
      exact Yields.map (P := fun _ => True) (fun _ _ _ => trivial)
        fun _ _ => nullFree_of_not_table rfl (by simp)
    · split
      · exact yields_ok (nullFree_of_not_table rfl (by simp))
      · split
        · exact yields_ok (nullFree_of_not_table rfl (by simp))
        · split
          · split
            · exact yields_error _
            · -- an array, whose items nothing is asked of: no path goes into an array
              exact yields_ok (nullFree_array _)
            · exact Yields.map (P := fun _ => True) (fun _ _ _ => trivial)
                fun vs _ => nullFree_array vs
          · split
            · split
              · -- an inline table, which starts without entries
                exact yields_ok nullFree_nil
              · exact (hentries [] _ _ nullFree_nil).map fun _ h => h
            · exact nullFree_scalar _

theorem nullFree_entries_succ (hvalue : ∀ s, Yields NullFree (value bound s))
    (hentries : ∀ t m s, (Value.table t).NullFree →
      Yields (fun t => (Value.table t).NullFree) (entries bound t m s))
    (m : Marks) (s : List Char) (ht : (Value.table t).NullFree) :
    Yields (fun t => (Value.table t).NullFree) (entries (bound + 1) t m s) := by
  rw [entries]
  split
  · exact yields_error _
  · split
    · exact yields_error _
    · rename_i hv
      split
      · exact yields_failAt _ _
      · rename_i hadd
        -- the entry keeps the table free of nulls, whether it is the last one or not
        have ht' := nullFree_addInline ht (hvalue _ _ _ hv) hadd
        split
        · exact yields_ok ht'
        · exact hentries _ _ _ ht'
        · exact yields_failAt _ _

/-- No reader of a value returns one with a null: by induction on the bound, for values and for the
entries of inline tables together. -/
theorem nullFree_value_entries (bound : Nat) :
    (∀ s, Yields NullFree (value bound s)) ∧
    ∀ t m s, (Value.table t).NullFree →
      Yields (fun t => (Value.table t).NullFree) (entries bound t m s) := by
  induction bound with
  | zero => exact ⟨fun _ => yields_failAt _ _, fun _ _ _ _ => yields_failAt _ _⟩
  | succ bound ih =>
    exact ⟨nullFree_value_succ ih.2, fun t m s ht => nullFree_entries_succ ih.1 ih.2 m s ht⟩

theorem nullFree_valueOf (s : List Char) : Yields NullFree (valueOf s) :=
  (nullFree_value_entries _).1 s

/-! #### Statements -/

/-- The tree of a draft is without nulls. -/
def Draft.NullFree (d : Draft) : Prop := (Value.table d.tree).NullFree

variable {d d' : Draft} {k : Path}

theorem Draft.NullFree.addEntry (hd : d.NullFree) (hv : v.NullFree)
    (h : d.addEntry k v = .ok d') : d'.NullFree := by
  simp only [Draft.addEntry] at h
  split at h
  · cases h
  · split at h
    · cases h
    · split at h
      · cases h
      · rename_i hwithin
        cases h
        -- only the table that the key ends in changes
        exact Value.NullFree.within (fun s s' hs hs' => nullFree_insert hs hv hs') hd hwithin

theorem Draft.NullFree.openTable (hd : d.NullFree) (h : d.openTable k = .ok d') :
    d'.NullFree := by
  simp only [Draft.openTable] at h
  split at h
  · cases h
  · split at h
    · cases h
    · rename_i hwithin
      cases h
      exact Value.NullFree.within (fun s s' hs hs' => Option.some.inj hs' ▸ hs) hd hwithin

theorem Draft.NullFree.openArray (hd : d.NullFree) (h : d.openArray k = .ok d') :
    d'.NullFree := by
  simp only [Draft.openArray] at h
  split at h
  · cases h
  · split at h
    · cases h
    · rename_i hwithin
      cases h
      refine Value.NullFree.within (fun s s' hs hs' => ?_) hd hwithin
      -- the array is there and gets one more table, or it begins with one
      split at hs'
      · exact Option.some.inj hs' ▸ hs.put (nullFree_array _)
      · exact Option.some.inj hs' ▸ hs.put (nullFree_array _)
      · cases hs'

theorem Draft.NullFree.entryStatement (hd : d.NullFree) (s : List Char) :
    Yields Draft.NullFree (entryStatement d s) := by
  rw [Toml.entryStatement]
  split
  · exact yields_error _
  · split
    · exact yields_error _
    · rename_i hv
      split
      · exact yields_failAt _ _
      · rename_i hadd
        exact yields_ok (hd.addEntry (nullFree_valueOf _ _ _ hv) hadd)

theorem Draft.NullFree.tableStatement (hd : d.NullFree) (s : List Char) :
    Yields Draft.NullFree (tableStatement d s) := by
  rw [Toml.tableStatement]
  split
  · exact yields_error _
  · split
    · exact yields_failAt _ _
    · rename_i hopen
      split
      · exact yields_ok (hd.openTable hopen)
      · exact yields_failAt _ _

theorem Draft.NullFree.arrayStatement (hd : d.NullFree) (s : List Char) :
    Yields Draft.NullFree (arrayStatement d s) := by
  rw [Toml.arrayStatement]
  split
  · exact yields_error _
  · split
    · exact yields_failAt _ _
    · rename_i hopen
      split
      · exact yields_ok (hd.openArray hopen)
      · exact yields_failAt _ _

theorem Draft.NullFree.statement (hd : d.NullFree) (s : List Char) :
    Yields Draft.NullFree (statement d s) := by
  rw [Toml.statement.eq_def]
  -- a header of an array, a header of a table, an entry, and a line without a statement
  split
  · exact hd.arrayStatement _
  · exact hd.tableStatement _
  · split
    · exact hd.entryStatement _
    · split
      · exact yields_ok hd
      · exact yields_failAt _ _
  · exact yields_ok hd

theorem Draft.NullFree.statements (hd : d.NullFree) (h : statements bound d s = .ok t) :
    (Value.table t).NullFree := by
  induction bound generalizing d s with
  | zero =>
    rw [Toml.statements] at h
    cases h
    exact hd
  | succ bound ih =>
    rw [Toml.statements] at h
    split at h
    · cases h
      exact hd
    · split at h
      · exact ih hd h
      · split at h
        · cases h
        · rename_i hstatement
          -- a statement keeps the draft free of nulls, and the rest follows by the smaller bound
          have hd' := hd.statement _ _ _ hstatement
          split at h
          · cases h
          · cases h
            exact hd'
          · split at h
            · exact ih hd' h
            · cases h

/-- A TOML document has no null. -/
theorem nullFree_of_parseChars {source : List Char} (h : parseChars source = .ok t) :
    (Value.table t).NullFree := by
  rw [parseChars] at h
  rcases e : statements ((unifyNewlines source).length + 1) Draft.empty (unifyNewlines source) with
    e' | t'
  · rw [e] at h
    cases h
  · obtain rfl : t' = t := by simpa [e, Except.mapError] using h
    have hempty : Draft.empty.NullFree := nullFree_nil
    exact hempty.statements e

end Toml

/-! ### Layers -/

/-- The value of an override has no null. -/
theorem nullFree_of_overrideValue {raw : String} {v : Value} (h : overrideValue raw = .ok v) :
    v.NullFree := by
  rcases overrideValue_cases h with rfl | ⟨-, hparse, -⟩
  · exact Value.nullFree_of_not_table rfl (by simp)
  · have hget : Table.get? [("value", v)] "value" = some v := by simp [Table.get?]
    exact (Toml.nullFree_of_parseChars hparse).get? hget

mutual

/-- What is set of a value has no null in it. -/
theorem Value.nullFree_present : ∀ v : Value, v ≠ .null → v.present.NullFree
  | .null, h => absurd rfl h
  | .table t, _ => by
    rw [Value.present_table]
    exact Table.nullFree_present t
  | .boolean _, h => Value.nullFree_of_not_table rfl h
  | .integer _, h => Value.nullFree_of_not_table rfl h
  | .float _, h => Value.nullFree_of_not_table rfl h
  | .text _, h => Value.nullFree_of_not_table rfl h
  | .moment _, h => Value.nullFree_of_not_table rfl h
  | .date _, h => Value.nullFree_of_not_table rfl h
  | .time _, h => Value.nullFree_of_not_table rfl h
  | .array _, h => Value.nullFree_of_not_table rfl h

theorem Table.nullFree_present :
    ∀ t : List (String × Value), (Value.table (Table.present t)).NullFree
  | [] => Value.nullFree_nil
  | (key, v) :: rest => by
    have hrest := Table.nullFree_present rest
    by_cases hv : v = .null
    · rw [hv, Table.present_cons_null]
      exact hrest
    · rw [Table.present_cons hv]
      exact hrest.cons (Value.nullFree_present v hv)

end

/-- A layer without nulls. -/
def Layer.NullFree (l : Layer) : Prop := (Value.table l.data).NullFree

theorem nullFree_defaultsLayer : defaultsLayer.NullFree := by
  obtain ⟨entries, hentries⟩ : ∃ entries, Settings.initial = .table entries := ⟨_, rfl⟩
  rw [Layer.NullFree, defaultsLayer, Settings.layerData, hentries]
  exact Table.nullFree_present entries

variable {files : Files} {source : Source} {environment : Environment} {start separator : String}
  {l : Layer} {P : Provider}

theorem Source.nullFree_of_parse {text name kind : String} {t : Table}
    (h : parse text name kind = .ok t) : (Value.table t).NullFree := by
  rw [parse] at h
  split at h
  · rename_i hparse
    cases h
    exact Toml.nullFree_of_parseChars hparse
  · cases h
  · cases h

theorem Source.nullFree_load (h : (source.load files).outcome = .ok l) : l.NullFree := by
  rw [load] at h
  split at h
  · simp only [Run.bind_eq, Run.outcome_bind_eq_ok] at h
    obtain ⟨data, hdata, _, -, hl⟩ := h
    cases hl
    exact nullFree_of_parse hdata
  · simp only [Run.bind_eq, Run.outcome_bind_eq_ok] at h
    obtain ⟨text, -, data, hdata, _, -, hl⟩ := h
    cases hl
    exact nullFree_of_parse hdata

/-- Variables put no null into a tree. -/
theorem Collected.nullFree_takeAll {entries : List (String × String)} {c c' : Collected}
    (hc : (Value.table c.tree).NullFree)
    (h : (takeAll start separator entries c).outcome = .ok c') :
    (Value.table c'.tree).NullFree := by
  induction entries generalizing c with
  | nil =>
    obtain rfl := Except.ok.inj h
    exact hc
  | cons e entries ih =>
    simp only [takeAll, Run.bind_eq, Run.outcome_bind_eq_ok] at h
    obtain ⟨c₁, htake, hrest⟩ := h
    refine ih ?_ hrest
    -- a variable that does not apply leaves the tree alone, another one assigns its value
    rcases take_eq_ok htake with ⟨-, rfl⟩ | ⟨q, v, -, hv, rfl⟩
    · exact hc
    · exact hc.assign (nullFree_of_overrideValue hv)

theorem nullFree_collectOverrides
    (h : (collectOverrides environment start separator).outcome = .ok l) : l.NullFree := by
  obtain ⟨c, hall, rfl⟩ := collectOverrides_eq_ok_iff.1 h
  exact Collected.nullFree_takeAll Value.nullFree_nil hall

theorem Provider.nullFree_merge (hP : (Value.table P.merged).NullFree) (hl : l.NullFree) :
    (Value.table (P.merge l).merged).NullFree := by
  rw [merged_merge, ← Value.merge_table]
  exact hP.merge hl

/-- The tree of all layers of a resolution has no null. -/
theorem nullFree_join (hP : (userProvider files source environment).outcome = .ok P) :
    (Value.table (P.join defaultsLayer).merged).NullFree := by
  obtain ⟨document, overrides, hdocument, hoverrides, rfl⟩ := userProvider_eq_ok_iff.1 hP
  have hlayers : (Provider.mk [document, overrides]).join defaultsLayer =
      (((Provider.mk []).merge defaultsLayer).merge document).merge overrides := rfl
  rw [hlayers]
  refine Provider.nullFree_merge (Provider.nullFree_merge (Provider.nullFree_merge ?_ ?_) ?_) ?_
  · exact Value.nullFree_nil
  · exact nullFree_defaultsLayer
  · exact Source.nullFree_load hdocument
  · exact nullFree_collectOverrides hoverrides

end LayeredSettings
