/-
LayeredSettings/Proofs/Regrouping.lean

When trees may be laid over one another in another grouping.

Merging is not associative.  Where the lower one of three trees holds a table, the
middle one something else and the upper one a table again, the groupings differ:

    lower, middle | upper      the middle value wipes the lower table out
    lower | middle, upper      the upper table has taken the place of the middle
                               value before it comes over the lower table

What the upper table has no key for comes to light again in the second grouping
(`Value.Resurfaces`), and this is the whole difference: the groupings are equal as
mappings exactly if nothing resurfaces (`Value.sameMapping_regrouped_iff`).  Nothing
resurfaces under a tree that lies over itself, so that a tree laid over twice is laid
over once (`Value.sameMapping_merge_twice`).

Main result: `Table.merge_regroup`.  For a provider it means that two neighbouring
layers may be put together first (`Provider.sameMapping_merged_together`).
-/
import LayeredSettings.Proofs.Filling

namespace LayeredSettings

/-! ### Equality as mappings -/

/-- Two values are equal as mappings: they are the same, or tables that hold values equal as
mappings under each key.  The order of the entries of a table does not count. -/
inductive Value.SameMapping : Option Value → Option Value → Prop
  | same (v : Option Value) : SameMapping v v
  | tables {s t : Table} (h : ∀ key, SameMapping (Table.get? s key) (Table.get? t key)) :
      SameMapping (some (.table s)) (some (.table t))

/-- Two tables are equal as mappings. -/
def Table.SameMapping (s t : Table) : Prop :=
  Value.SameMapping (some (.table s)) (some (.table t))

namespace Value

section

variable {u v w v' w' : Option Value}

theorem SameMapping.symm (h : SameMapping v w) : SameMapping w v := by
  induction h with
  | same v => exact .same v
  | tables h ih => exact .tables ih

theorem SameMapping.trans (h : SameMapping u v) (h' : SameMapping v w) : SameMapping u w := by
  induction h generalizing w with
  | same v => exact h'
  | @tables s t h ih =>
    cases h' with
    | same => exact .tables h
    | tables h' =>
      apply SameMapping.tables
      intro key
      exact ih key (h' key)

theorem SameMapping.isSome_eq (h : SameMapping v w) : v.isSome = w.isSome := by
  cases h with
  | same => rfl
  | tables => rfl

/-- Trees that are equal as mappings hold values equal as mappings at each path. -/
theorem SameMapping.find? (h : SameMapping v w) (p : Path) :
    SameMapping (v.bind (Value.find? p)) (w.bind (Value.find? p)) := by
  induction h generalizing p with
  | same v => exact .same _
  | @tables s t h ih =>
    rcases p with - | ⟨key, rest⟩
    · exact .tables h
    · simp only [Option.bind_some, Table.find?_cons]
      exact ih key rest

/-- Merged tables are equal as mappings if what comes out under each key is. -/
theorem sameMapping_merge_tables {r s r' s' : Table}
    (h : ∀ key, SameMapping (mergeOptional (Table.get? r key) (Table.get? s key))
      (mergeOptional (Table.get? r' key) (Table.get? s' key))) :
    SameMapping (some (merge (.table r) (.table s))) (some (merge (.table r') (.table s'))) := by
  rw [merge_table, merge_table]
  apply SameMapping.tables
  intro key
  rw [Table.get?_merge, Table.get?_merge]
  exact h key

/-- Values equal as mappings stay so when they are laid over a value. -/
theorem SameMapping.merge_upper (h : SameMapping w w') (v : Option Value) :
    SameMapping (mergeOptional v w) (mergeOptional v w') := by
  induction h generalizing v with
  | same w => exact .same _
  | @tables s t h ih =>
    rcases v with - | v
    · exact .tables h
    · rcases v.eq_table_or_not_table with ⟨r, rfl⟩ | hv
      · apply sameMapping_merge_tables
        intro key
        exact ih key _
      · simp only [mergeOptional, merge_of_not_table_left hv]
        exact .tables h

/-- Values equal as mappings stay so when a value is laid over them. -/
theorem SameMapping.merge_lower (h : SameMapping v v') (w : Option Value) :
    SameMapping (mergeOptional v w) (mergeOptional v' w) := by
  induction h generalizing w with
  | same v => exact .same _
  | @tables s t h ih =>
    rcases w with - | w
    · exact .tables h
    · rcases w.eq_table_or_not_table with ⟨r, rfl⟩ | hw
      · apply sameMapping_merge_tables
        intro key
        exact ih key _
      · simp only [mergeOptional, merge_of_not_table_right _ hw]
        exact .same _

end

/-! ### What a tree covers -/

variable {a b c v w : Value}

/-- If no path to a value of the lower tree misses the upper one, nothing of the former shows. -/
theorem sameMapping_merge_of_covers (h : ∀ q, (find? q v).isSome → contact q w ≠ .misses) :
    SameMapping (some (merge v w)) (some w) := by
  induction v using Value.induction generalizing w with
  | plain v hv =>
    rw [merge_of_not_table_left hv]
    exact .same _
  | table s ih =>
    rcases w.eq_table_or_not_table with ⟨t, rfl⟩ | hw
    · rw [merge_table]
      apply SameMapping.tables
      intro key
      rw [Table.get?_merge]
      rcases hs : Table.get? s key with - | x
      · exact .same _
      · rcases ht : Table.get? t key with - | y
        · -- the key alone would miss the upper table
          refine absurd ?_ (h [key] ?_)
          · simp [contact, ht]
          · simp [Value.find?, hs]
        · refine ih key x hs fun q hq => ?_
          have hbelow := h (key :: q)
          rw [Table.find?_cons, hs, Option.bind_some, contact, ht] at hbelow
          exact hbelow hq
    · rw [merge_of_not_table_right _ hw]
      exact .same _

theorem sameMapping_merge_self (v : Value) : SameMapping (some (merge v v)) (some v) := by
  apply sameMapping_merge_of_covers
  intro q hq
  obtain ⟨x, hx⟩ := Option.isSome_iff_exists.1 hq
  rw [find?_eq_some_iff_contact.1 hx]
  exact Contact.noConfusion

/-! ### Regrouping -/

/-- At a path the lower and the upper one of three trees hold tables, and the middle one holds
something else. -/
def InterruptedAt (p : Path) (lower middle upper : Value) : Prop :=
  ∃ s v t, find? p lower = some (.table s) ∧ find? p middle = some v ∧ v.isTable = false ∧
    find? p upper = some (.table t)

/-- The lower tree holds a value behind a path at which the middle one holds something that is no
table, and at this path the upper tree holds a table in which a key on the way to the value is
missing. -/
def Resurfaces (lower middle upper : Value) : Prop :=
  ∃ p q v t, (find? (p ++ q) lower).isSome ∧ find? p middle = some v ∧ v.isTable = false ∧
    find? p upper = some (.table t) ∧ contact q (.table t) = .misses

/-- Where something resurfaces, the middle tree interrupts a table. -/
theorem Resurfaces.interrupted (h : Resurfaces a b c) : ∃ p, InterruptedAt p a b c := by
  obtain ⟨p, q, v, t, ha, hb, hv, hc, hmiss⟩ := h
  obtain ⟨key, rest, rfl⟩ : ∃ key rest, q = key :: rest := by
    apply List.exists_cons_of_ne_nil
    rintro rfl
    rw [contact_nil] at hmiss
    cases hmiss
  rw [find?_append] at ha
  rcases hx : find? p a with - | x
  · rw [hx] at ha
    cases ha
  · rw [hx, Option.bind_some] at ha
    obtain ⟨s, -, rfl, -, -⟩ := exists_table_of_find? ha
    exact ⟨p, s, v, t, hx, hb, hv, hc⟩

/-- Where something resurfaces, the first grouping holds nothing and the second one a value. -/
theorem Resurfaces.exists_path (h : Resurfaces a b c) :
    ∃ p, find? p (merge (merge a b) c) = none ∧ (find? p (merge a (merge b c))).isSome := by
  obtain ⟨p, q, v, t, ha, hb, hv, hc, hmiss⟩ := h
  have hupper : find? p (merge b c) = some (.table t) := by
    rw [find?_merge, find?_eq_some_iff_contact.1 hc, hb]
    show some (merge v (.table t)) = some (.table t)
    rw [merge_of_not_table_left hv]
  have hblocks : contact (p ++ q) b = .blocks := by
    rcases q with - | ⟨key, rest⟩
    · rw [contact_nil] at hmiss
      cases hmiss
    · rw [contact_append hb]
      exact contact_cons_of_not_table hv key rest
  refine ⟨p ++ q, ?_, ?_⟩
  · rw [find?_merge, contact_append hc, hmiss]
    show find? (p ++ q) (merge a b) = none
    rw [find?_merge, hblocks]
  · rw [find?_merge, contact_append hupper, hmiss]
    exact ha

/-- If nothing resurfaces, the grouping does not matter.  The induction is on the lower tree: where
it holds no table, it is replaced in both groupings. -/
theorem sameMapping_regrouped (h : ¬ Resurfaces a b c) :
    SameMapping (some (merge (merge a b) c)) (some (merge a (merge b c))) := by
  induction a using Value.induction generalizing b c with
  | plain a ha =>
    rw [merge_of_not_table_left ha, merge_of_not_table_left ha]
    exact .same _
  | table r ih =>
    rcases c.eq_table_or_not_table with ⟨t, rfl⟩ | hc
    · rcases b.eq_table_or_not_table with ⟨s, rfl⟩ | hb
      · rw [merge_table r s, merge_table s t]
        apply sameMapping_merge_tables
        intro key
        rw [Table.get?_merge, Table.get?_merge]
        rcases hr : Table.get? r key with - | x
        · exact .same _
        · rcases hs : Table.get? s key with - | y
          · exact .same _
          · rcases ht : Table.get? t key with - | z
            · exact .same _
            · -- what resurfaces below the key resurfaces
              refine ih key x hr ?_
              rintro ⟨p, q, v, u, hx, hy, hv, hz, hmiss⟩
              refine h ⟨key :: p, q, v, u, ?_, ?_, hv, ?_, hmiss⟩
              · rwa [List.cons_append, Table.find?_cons, hr, Option.bind_some]
              · rwa [Table.find?_cons, hs, Option.bind_some]
              · rwa [Table.find?_cons, ht, Option.bind_some]
      · -- the middle value wipes the lower table out, and the upper table covers all of it
        rw [merge_of_not_table_right _ hb, merge_of_not_table_left hb]
        apply SameMapping.symm
        apply sameMapping_merge_of_covers
        intro q hq hmiss
        exact h ⟨[], q, b, t, hq, find?_nil b, hb, find?_nil _, hmiss⟩
    · simp only [merge_of_not_table_right _ hc]
      exact .same _

/-- Trees may be regrouped exactly if nothing resurfaces. -/
theorem sameMapping_regrouped_iff :
    SameMapping (some (merge (merge a b) c)) (some (merge a (merge b c))) ↔
      ¬ Resurfaces a b c := by
  constructor
  · intro hsame hback
    obtain ⟨p, hgone, hthere⟩ := hback.exists_path
    have hfind := (hsame.find? p).isSome_eq
    rw [Option.bind_some, Option.bind_some, hgone, hthere] at hfind
    cases hfind
  · exact sameMapping_regrouped

/-- The port below a table that a text replaces resurfaces where the table is opened anew. -/
example :
    let lower := Value.table [("net", .table [("port", .integer 80), ("tls", .null)])]
    let upper := Value.table [("net", .table [("tls", .null)])]
    let middle := Value.table [("net", .text "off")]
    find? ["net", "port"] (merge (merge lower middle) upper) = none ∧
      find? ["net", "port"] (merge lower (merge middle upper)) = some (.integer 80) := by
  decide

/-- A tree laid over a second time changes nothing more: it holds no table where it holds something
else, so that it may be laid over itself first. -/
theorem sameMapping_merge_twice (a b : Value) :
    SameMapping (some (merge (merge a b) b)) (some (merge a b)) := by
  have hregroup : SameMapping (some (merge (merge a b) b)) (some (merge a (merge b b))) := by
    apply sameMapping_regrouped
    intro hback
    obtain ⟨p, r, v, t, -, hv, hplain, ht⟩ := hback.interrupted
    obtain rfl := Option.some.inj (hv.symm.trans ht)
    cases hplain
  exact hregroup.trans ((sameMapping_merge_self b).merge_upper (some a))

end Value

namespace Table

/-- **Trees may be regrouped unless the middle one interrupts a table of both others, and a tree may
be laid over twice.** -/
theorem merge_regroup (a b c : Table) :
    ((∀ p, ¬ Value.InterruptedAt p (.table a) (.table b) (.table c)) →
      SameMapping (merge (merge a b) c) (merge a (merge b c))) ∧
    SameMapping (merge (merge a b) b) (merge a b) := by
  constructor
  · intro h
    have hregroup : ¬ Value.Resurfaces (.table a) (.table b) (.table c) := by
      intro hback
      obtain ⟨p, hp⟩ := hback.interrupted
      exact h p hp
    have hsame := Value.sameMapping_regrouped hregroup
    simp only [Value.merge_table] at hsame
    exact hsame
  · have hsame := Value.sameMapping_merge_twice (.table a) (.table b)
    simp only [Value.merge_table] at hsame
    exact hsame

/-- A tree of two tables and a text. -/
def lowerTree : Table :=
  [("site", .table [("name", .text "Index"), ("demo", .table [("title", .text "Demo")])]),
    ("net", .table [("port", .integer 80)]), ("mail", .text "off")]

/-- A tree with a table in place of the text, a text in place of a table, and one of its own. -/
def middleTree : Table :=
  [("site", .table [("name", .text "Torrents")]), ("net", .text "off"),
    ("mail", .table [("port", .integer 25)]), ("auth", .text "none")]

/-- A tree that goes on below two of the tables, with a table in place of the last text. -/
def upperTree : Table :=
  [("site", .table [("demo", .table [("warning", .text "Demo only")])]),
    ("mail", .table [("server", .text "localhost")]), ("auth", .table [("secret", .text "s")])]

/-- The middle tree holds a text over the table `net` and another one under the table `auth`, but
none between two tables. -/
theorem merge_regroup_trees :
    (∀ p, ¬ Value.InterruptedAt p (.table lowerTree) (.table middleTree) (.table upperTree)) ∧
    SameMapping (merge (merge lowerTree middleTree) upperTree)
      (merge lowerTree (merge middleTree upperTree)) ∧
    SameMapping (merge (merge lowerTree middleTree) middleTree) (merge lowerTree middleTree) := by
  have hfree : ∀ p, ¬ Value.InterruptedAt p (.table lowerTree) (.table middleTree)
      (.table upperTree) := by
    rintro p ⟨r, v, t, hlower, hmiddle, hv, hupper⟩
    rcases p with - | ⟨key, rest⟩
    · obtain rfl := Option.some.inj hmiddle
      cases hv
    · rw [find?_cons] at hlower hmiddle hupper
      obtain ⟨z, hz, -⟩ := Option.bind_eq_some_iff.1 hupper
      have hkey : key = "site" ∨ key = "mail" ∨ key = "auth" := by
        simpa [upperTree, keys] using mem_keys_of_get? hz
      rcases hkey with rfl | rfl | rfl
      · -- a table in all three trees, and the upper one has a single key there
        rcases rest with - | ⟨k, rest⟩
        · obtain rfl := Option.some.inj hmiddle
          cases hv
        · change Value.find? (k :: rest) (.table [("demo", _)]) = _ at hupper
          change Value.find? (k :: rest) (.table [("name", _)]) = _ at hmiddle
          rw [find?_cons] at hupper hmiddle
          obtain ⟨x, hx, -⟩ := Option.bind_eq_some_iff.1 hupper
          obtain rfl : k = "demo" := by simpa [keys] using mem_keys_of_get? hx
          cases hmiddle
      · -- the lower tree has a text there
        rcases rest with - | ⟨k, rest⟩ <;> cases hlower
      · cases hlower
  exact ⟨hfree, (merge_regroup _ _ _).1 hfree, (merge_regroup lowerTree middleTree []).2⟩

end Table

namespace Provider

/-- The same layers over trees that are equal as mappings. -/
theorem sameMapping_foldl_merge {s t : Table} (h : Table.SameMapping s t) (layers : List Layer) :
    Table.SameMapping (layers.foldl (fun u l => Table.merge u l.data) s)
      (layers.foldl (fun u l => Table.merge u l.data) t) := by
  induction layers generalizing s t with
  | nil => exact h
  | cons l rest ih =>
    have hstep := Value.SameMapping.merge_lower h (some (.table l.data))
    simp only [Value.mergeOptional, Value.merge_table] at hstep
    exact ih hstep

/-- Two neighbours among the layers of a provider may be put together first, unless something of the
layers below them resurfaces. -/
theorem sameMapping_merged_together {below : List Layer} {l m : Layer}
    (h : ¬ Value.Resurfaces (.table (Provider.mk below).merged) (.table l.data) (.table m.data))
    (name : String) (above : List Layer) :
    Table.SameMapping (Provider.mk (below ++ l :: m :: above)).merged
      (Provider.mk (below ++ ⟨name, Table.merge l.data m.data⟩ :: above)).merged := by
  have hsame := Value.sameMapping_regrouped h
  simp only [Value.merge_table] at hsame
  have hall := sameMapping_foldl_merge hsame above
  simpa only [merged, List.foldl_append, List.foldl_cons] using hall

end Provider

end LayeredSettings
