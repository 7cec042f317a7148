/-
LayeredSettings/Proofs/Straying.lean

Trees with one more assignment.

In the tree of overrides the assignments of the variables that follow go over
the one that was added, so the difference may be covered again or stay.
`Value.Astray` describes it, and each assignment that follows keeps it
(`Value.Astray.assigned`).

With the same layers below, the merged trees differ at the same path alone
(`Value.Astray.merge`), but there are two ways in which tables may newly lead to
it (`Value.Strays`): where nothing was, and in place of something that was no
table, where what lies below shows again.
-/
import LayeredSettings.Proofs.Assignment
import LayeredSettings.Proofs.Filling

namespace LayeredSettings

open Value (mergeOptional)

/-! ### Assignments in optional values -/

/-- The entries of a table; nothing and anything else has none. -/
def Value.entries : Option Value → Table
  | some (.table t) => t
  | _ => []

/-- What an assignment makes of what was there. -/
def Value.assigned (v : Option Value) : Path → Value → Value
  | [], x => x
  | key :: rest, x => .table (Table.assign (entries v) (key :: rest) x)

/-- No table is there. -/
def Value.NoTable (v : Option Value) : Prop := ∀ t, v ≠ some (.table t)

namespace Value

variable {v w m : Option Value} {p q rest : Path} {key : String} {x y : Value}

theorem noTable_or_eq_table (v : Option Value) : NoTable v ∨ ∃ t, v = some (.table t) := by
  rcases v with - | v
  · exact .inl nofun
  · rcases v.eq_table_or_not_table with ⟨t, rfl⟩ | hv
    · exact .inr ⟨t, rfl⟩
    · refine .inl fun t ht => ?_
      rw [Option.some.inj ht] at hv
      cases hv

theorem NoTable.entries (h : NoTable v) : entries v = [] := by
  rcases v with - | v
  · rfl
  · cases v with
    | table t => exact absurd rfl (h t)
    | _ => rfl

theorem NoTable.isTable (h : NoTable (some y)) : y.isTable = false := by
  rcases y.eq_table_or_not_table with ⟨t, rfl⟩ | hy
  · exact absurd rfl (h t)
  · exact hy

theorem assign_cons (t : Table) (key : String) (rest : Path) (x : Value) :
    Table.assign t (key :: rest) x =
      Table.put t key (assigned (Table.get? t key) rest x) := by
  rcases rest with - | ⟨next, rest⟩
  · rfl
  · rw [Table.assign, assigned]
    congr 3

theorem assigned_cons (v : Option Value) (key : String) (rest : Path) (x : Value) :
    assigned v (key :: rest) x =
      .table (Table.put (entries v) key (assigned (Table.get? (entries v) key) rest x)) := by
  rw [assigned, assign_cons]

/-- What is no table gives way as if nothing were there. -/
theorem NoTable.assigned (h : NoTable v) (p : Path) (x : Value) :
    assigned v p x = assigned none p x := by
  rcases p with - | ⟨key, rest⟩
  · rfl
  · rw [Value.assigned, Value.assigned, h.entries]
    rfl

theorem find?_assigned (v : Option Value) (p : Path) (x : Value) :
    (assigned v p x).find? p = some x := by
  rcases p with - | ⟨key, rest⟩
  · exact find?_nil x
  · exact Table.find?_assign (List.cons_ne_nil key rest) x

/-! ### Trees with one more assignment -/

/-- The second tree is the first one with one more assignment at a path, before others: it differs
at the path alone, to which tables lead that the first tree may not have. -/
inductive Astray (x : Value) : Path → Option Value → Option Value → Prop
  | same (p : Path) (v : Option Value) : Astray x p v v
  | stop (v w : Option Value) : Astray x [] v w
  | inside {key : String} {rest : Path} {s t : Table}
      (hothers : ∀ k ≠ key, Table.get? t k = Table.get? s k)
      (hbelow : Astray x rest (Table.get? s key) (Table.get? t key)) :
      Astray x (key :: rest) (some (.table s)) (some (.table t))
  | opened {key : String} {rest : Path} {v : Option Value} (hv : NoTable v) :
      Astray x (key :: rest) v (some (assigned none (key :: rest) x))

theorem astray_assigned (p : Path) (v : Option Value) (x : Value) :
    Astray x p v (some (assigned v p x)) := by
  induction p generalizing v with
  | nil => exact .stop _ _
  | cons key rest ih =>
    -- a table is opened on the way, or the assignment goes on inside the one that is there
    rcases noTable_or_eq_table v with hv | ⟨s, rfl⟩
    · rw [hv.assigned]
      exact .opened hv
    · rw [assigned_cons]
      refine .inside (fun k hk => ?_) ?_
      · rw [Table.get?_put, if_neg (Ne.symm hk)]
        rfl
      · rw [Table.get?_put, if_pos rfl]
        exact ih _

/-- An assignment that follows keeps the difference. -/
theorem Astray.assigned (h : Astray x p v w) (q : Path) (y : Value) :
    Astray x p (some (assigned v q y)) (some (assigned w q y)) := by
  -- by induction on the path, since an opened table is compared anew key by key
  induction p generalizing v w q with
  | nil => exact .stop _ _
  | cons key rest ih =>
    rcases q with - | ⟨k, q⟩
    · exact .same _ _
    · cases h with
      | same => exact .same _ _
      | @inside _ _ s t hothers hbelow =>
        rw [assigned_cons, assigned_cons]
        refine .inside (fun l hl => ?_) ?_
        · rw [Table.get?_put, Table.get?_put]
          split
          · rename_i hkl
            rw [hkl]
            exact congrArg (fun z => some (Value.assigned z q y)) (hothers l hl)
          · exact hothers l hl
        · rw [Table.get?_put, Table.get?_put]
          split
          · rename_i hkey
            rw [hkey]
            exact ih hbelow q
          · exact hbelow
      | opened hv =>
        -- the first tree has a table now, and nothing in it but what was just assigned
        rw [hv.assigned, assigned_cons none key rest x, assigned_cons, assigned_cons]
        refine .inside (fun l hl => ?_) ?_
        · simp only [entries, Table.get?_put, if_neg (Ne.symm hl)]
          split
          · rename_i hkl
            rw [hkl, if_neg (Ne.symm hl)]
          · rfl
        · simp only [entries, Table.get?_put, if_true]
          split
          · rename_i hkey
            rw [hkey, if_pos rfl]
            exact ih (astray_assigned rest _ x) q
          · exact astray_assigned rest _ x

/-- The second tree differs from the first one at a path alone.  Tables lead to it; where the first
tree has none, the second one holds the path. -/
inductive Strays : Path → Option Value → Option Value → Prop
  | same (p : Path) (v : Option Value) : Strays p v v
  | stop (v w : Option Value) : Strays [] v w
  | inside {key : String} {rest : Path} {s t : Table}
      (hothers : ∀ k ≠ key, Table.get? t k = Table.get? s k)
      (hbelow : Strays rest (Table.get? s key) (Table.get? t key)) :
      Strays (key :: rest) (some (.table s)) (some (.table t))
  | opened {key : String} {rest : Path} {t : Table}
      (hothers : ∀ k ≠ key, Table.get? t k = none)
      (hbelow : Strays rest none (Table.get? t key))
      (hheld : (find? (key :: rest) (.table t)).isSome) :
      Strays (key :: rest) none (some (.table t))
  | blocked {key : String} {rest : Path} {v : Value} {t : Table} (hv : v.isTable = false)
      (hheld : (find? (key :: rest) (.table t)).isSome) :
      Strays (key :: rest) (some v) (some (.table t))

/-- A table over anything is a table, which holds at each key what the table does over the
other. -/
theorem exists_mergeOptional_table (m : Option Value) (t : Table) :
    ∃ u, mergeOptional m (some (.table t)) = some (.table u) ∧
      ∀ k, Table.get? u k = mergeOptional (Table.get? (entries m) k) (Table.get? t k) := by
  rcases noTable_or_eq_table m with hm | ⟨s, rfl⟩
  · refine ⟨t, ?_, fun k => ?_⟩
    · rcases m with - | m
      · rfl
      · rw [mergeOptional, merge_of_not_table_left hm.isTable]
    · rw [hm.entries]
      rfl
  · exact ⟨Table.merge s t, by rw [mergeOptional, merge_table], Table.get?_merge s t⟩

theorem isSome_mergeOptional (m : Option Value) (v : Value) :
    (mergeOptional m (some v)).isSome := by
  cases m <;> rfl

/-- Where the upper tree holds a value, the merged tree holds one. -/
theorem isSome_find?_mergeOptional {v w : Value} (h : mergeOptional m (some v) = some w)
    (hv : (find? p v).isSome) : (find? p w).isSome := by
  rcases m with - | u
  · obtain rfl := Option.some.inj h
    exact hv
  · obtain rfl := Option.some.inj h
    obtain ⟨z, hz⟩ := Option.isSome_iff_exists.1 hv
    rw [find?_merge, find?_eq_some_iff_contact.1 hz]
    exact isSome_mergeOptional _ z

/-- An assignment to nothing over a tree adds a path to it. -/
theorem exists_mergeOptional_assigned (m : Option Value) (key : String) (rest : Path)
    (x : Value) :
    ∃ b, mergeOptional m (some (assigned none (key :: rest) x)) = some (.table b) ∧
      (find? (key :: rest) (.table b)).isSome ∧
      (∀ k ≠ key, Table.get? b k = Table.get? (entries m) k) ∧
      Table.get? b key =
        mergeOptional (Table.get? (entries m) key) (some (assigned none rest x)) := by
  -- what was assigned lies at the path, so the merged tree holds something there
  have hfind := find?_assigned none (key :: rest) x
  rw [assigned_cons] at hfind ⊢
  obtain ⟨b, hb, hget⟩ := exists_mergeOptional_table m
    (Table.put (entries none) key (assigned (Table.get? (entries none) key) rest x))
  refine ⟨b, hb, isSome_find?_mergeOptional hb (by simp [hfind]), fun k hk => ?_, ?_⟩
  · rw [hget, Table.get?_put, if_neg (Ne.symm hk)]
    exact mergeOptional_none _
  · rw [hget, Table.get?_put, if_pos rfl]
    rfl

/-- Over one and the same tree the difference stays at the path. -/
theorem Astray.merge (h : Astray x p v w) (m : Option Value) :
    Strays p (mergeOptional m v) (mergeOptional m w) := by
  induction p generalizing m v w with
  | nil => exact .stop _ _
  | cons key rest ih =>
    cases h with
    | same => exact .same _ _
    | @inside _ _ s t hothers hbelow =>
      obtain ⟨a, ha, hgeta⟩ := exists_mergeOptional_table m s
      obtain ⟨b, hb, hgetb⟩ := exists_mergeOptional_table m t
      rw [ha, hb]
      refine .inside (fun k hk => ?_) ?_
      · rw [hgeta, hgetb, hothers k hk]
      · rw [hgeta, hgetb]
        exact ih hbelow _
    | opened hv =>
      obtain ⟨b, hb, hheld, hothers, hkey⟩ := exists_mergeOptional_assigned m key rest x
      have hbelow := ih (astray_assigned rest none x) (Table.get? (entries m) key)
      rw [← hkey, mergeOptional_none] at hbelow
      rw [hb]
      rcases v with - | y
      · -- what lies below shows through
        rw [mergeOptional_none]
        rcases m with - | u
        · exact .opened hothers hbelow hheld
        · rcases u.eq_table_or_not_table with ⟨u, rfl⟩ | hu
          · exact .inside hothers hbelow
          · exact .blocked hu hheld
      · -- what is no table covers what lies below, and the opened table does not
        rw [mergeOptional_of_not_table m hv.isTable]
        exact .blocked hv.isTable hheld

/-- Where two trees differ above the end of the path, the second one has a table. -/
theorem Strays.eq_or_table (h : Strays p v w) (hp : p ≠ []) :
    v = w ∨ ∃ t, w = some (.table t) := by
  cases h with
  | same => exact .inl rfl
  | stop => exact absurd rfl hp
  | inside => exact .inr ⟨_, rfl⟩
  | opened => exact .inr ⟨_, rfl⟩
  | blocked => exact .inr ⟨_, rfl⟩

/-- A path that does not go through the one where two trees differ leads to a value in the second
if it does in the first. -/
theorem Strays.isSome_find? (h : Strays p v w) (hq : ¬ p <+: q)
    (hv : (v.bind (find? q)).isSome) : (w.bind (find? q)).isSome := by
  induction h generalizing q with
  | same => exact hv
  | stop => exact absurd List.nil_prefix hq
  | @inside key rest s t hothers hbelow ih =>
    rcases q with - | ⟨k, q⟩
    · simp
    · rw [Option.bind_some, Table.find?_cons] at hv ⊢
      -- below the key the two trees stray, under any other key they are the same
      by_cases hk : k = key
      · subst hk
        exact ih (fun hrest => hq (List.cons_prefix_cons.2 ⟨rfl, hrest⟩)) hv
      · rwa [hothers k hk]
  -- where a table was opened the first tree held nothing to be found
  | opened => cases hv
  | blocked hnot =>
    rcases q with - | ⟨k, q⟩
    · simp
    · rw [Option.bind_some, find?_cons_of_not_table hnot] at hv
      cases hv

end Value

end LayeredSettings
