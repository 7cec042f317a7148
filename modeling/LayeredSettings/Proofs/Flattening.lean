/-
LayeredSettings/Proofs/Flattening.lean

The leaves of a tree against lookups in it.

Listing the leaves puts texts of paths together key by key, and a lookup takes a
text apart again, so both are followed over lists of keys: the branches of a tree
are its leaves with the keys that lead to them (`Value.branches`), and the texts
come in at the end (`Table.leaves_eq_branches`).  In an addressable tree a path
text names one place at most (`Value.Addressable`), and there

    a branch is what a lookup finds, if that is a leaf   Addressable.mem_branches_iff
    branches stand in document order                      Addressable.pairwise_branches
    branches assigned one by one give the tree back       Addressable.assignedAll_branches

Main result: `Table.leaves_lookup_inverse`.
-/
import LayeredSettings.Proofs.Leaves
import LayeredSettings.Proofs.Straying

namespace LayeredSettings

/-! ### Branches -/

/-- Whether nothing is below a value: it is no table, or a table without entries. -/
def Value.isLeaf : Value → Bool
  | .table (_ :: _) => false
  | _ => true

mutual

/-- The leaves below a value, each with the keys that lead to it. -/
def Value.branches : Value → List (Path × Value)
  | .table (e :: es) => Table.branches (e :: es)
  | v => [([], v)]

/-- The leaves of the entries of a table, in document order, with the keys that lead to them. -/
def Table.branches : List (String × Value) → List (Path × Value)
  | [] => []
  | (key, v) :: rest => v.branches.map (fun e => (key :: e.1, e.2)) ++ Table.branches rest

end

theorem Value.branches_of_isLeaf {v : Value} (h : v.isLeaf = true) : v.branches = [([], v)] := by
  rcases v.eq_table_or_not_table with ⟨t, rfl⟩ | hv
  · rcases t with - | ⟨e, t⟩
    · rfl
    · cases h
  · cases v with
    | table t => cases hv
    | _ => rfl

theorem Value.branches_table {t : Table} (h : t ≠ []) :
    Value.branches (.table t) = Table.branches t := by
  rcases t with - | ⟨e, t⟩
  · exact absurd rfl h
  · rfl

theorem Value.isLeaf_of_not_table {v : Value} (h : v.isTable = false) : v.isLeaf = true := by
  cases v with
  | table t => cases h
  | _ => rfl

/-- A value is a leaf or a table with entries. -/
theorem Value.isLeaf_or_table (v : Value) :
    v.isLeaf = true ∨ ∃ t, t ≠ [] ∧ v = .table t := by
  rcases v.eq_table_or_not_table with ⟨t, rfl⟩ | hv
  · rcases t with - | ⟨e, t⟩
    · exact .inl rfl
    · exact .inr ⟨e :: t, List.cons_ne_nil e t, rfl⟩
  · exact .inl (Value.isLeaf_of_not_table hv)

theorem Table.mem_branches {t : Table} {e : Path × Value} :
    e ∈ Table.branches t ↔ ∃ f ∈ t, ∃ g ∈ f.2.branches, e = (f.1 :: g.1, g.2) := by
  induction t with
  | nil => simp [Table.branches]
  | cons f rest ih =>
    rcases f with ⟨key, v⟩
    rw [Table.branches, List.mem_append, List.mem_map, ih, List.exists_mem_cons_iff]
    simp only [eq_comm]

/-! ### Texts of branches -/

/-- What holds of everything that is no table, and of a table if it holds of the values of its
entries, holds of every value. -/
theorem Value.induction_entries {motive : Value → Prop}
    (plain : ∀ v : Value, v.isTable = false → motive v)
    (table : ∀ t : Table, (∀ e ∈ t, motive e.2) → motive (.table t)) (v : Value) : motive v :=
  @Value.rec motive (fun _ => True) (fun t => ∀ e ∈ t, motive e.2) (fun e => motive e.2)
    (plain _ rfl) (fun _ => plain _ rfl) (fun _ => plain _ rfl) (fun _ => plain _ rfl)
    (fun _ => plain _ rfl) (fun _ => plain _ rfl) (fun _ => plain _ rfl) (fun _ => plain _ rfl)
    (fun _ _ => plain _ rfl) table trivial (fun _ _ _ _ => trivial)
    (fun _ h => absurd h List.not_mem_nil)
    (fun _ _ hhead hrest _ h => (List.mem_cons.1 h).elim (fun e => e ▸ hhead) (hrest _))
    (fun _ _ h => h) v

/-- A branch with the text of its path, which begins with the text of another path. -/
def Path.spelled (path : String) (e : Path × Value) : String × Value :=
  (e.1.foldl Path.extend path, e.2)

theorem Table.leaves_eq_branches_of {t : Table}
    (h : ∀ e ∈ t, ∀ path, e.2.leaves path = e.2.branches.map (Path.spelled path))
    (path : String) : leaves path t = (branches t).map (Path.spelled path) := by
  induction t with
  | nil => rfl
  | cons f rest ih =>
    rcases f with ⟨key, v⟩
    -- the leaves of the first entry have its key in front of their paths
    have hfirst : v.leaves (Path.extend path key) =
        v.branches.map (Path.spelled (Path.extend path key)) := h _ List.mem_cons_self _
    rw [leaves, branches, List.map_append, List.map_map, hfirst,
      ih fun e he => h e (List.mem_cons_of_mem _ he)]
    rfl

/-- Leaves are branches with their paths spelled out. -/
theorem Value.leaves_eq_branches (v : Value) (path : String) :
    v.leaves path = v.branches.map (Path.spelled path) := by
  induction v using Value.induction_entries generalizing path with
  | plain v hv =>
    rw [Value.leaves_of_not_table hv, Value.branches_of_isLeaf (Value.isLeaf_of_not_table hv)]
    rfl
  | table t ih =>
    rcases t with - | ⟨e, t⟩
    · rfl
    · exact Table.leaves_eq_branches_of ih path

theorem Table.leaves_eq_branches (t : Table) (path : String) :
    leaves path t = (branches t).map (Path.spelled path) :=
  leaves_eq_branches_of (fun e _ => e.2.leaves_eq_branches) path

/-! ### Addressable trees -/

/-- A tree in which the text of a path names one place at most: each table on the way has every
key once, and no key is empty or has a point. -/
inductive Value.Addressable : Value → Prop
  | plain {v : Value} (h : v.isTable = false) : Addressable v
  | table {t : Table} (once : (Table.keys t).Nodup)
      (keys : ∀ key ∈ Table.keys t, key ≠ "" ∧ '.' ∉ key.toList)
      (below : ∀ e ∈ t, Addressable e.2) : Addressable (.table t)

theorem Table.mem_of_get? {t : Table} {key : String} {v : Value} (h : get? t key = some v) :
    (key, v) ∈ t := by
  induction t with
  | nil => cases h
  | cons f rest ih =>
    rcases f with ⟨k, w⟩
    by_cases hk : k = key
    · obtain rfl : w = v := by simpa [get?, hk] using h
      rw [hk]
      exact List.mem_cons_self
    · exact List.mem_cons_of_mem _ (ih (by simpa [get?, hk] using h))

namespace Value

variable {v w : Value} {p : Path} {t : Table}

/-- What a lookup finds in an addressable tree is addressable, behind a plain path. -/
theorem Addressable.of_find? (h : v.Addressable) (hw : v.find? p = some w) :
    w.Addressable ∧ p.Plain := by
  induction p generalizing v with
  | nil =>
    rw [find?_nil, Option.some.injEq] at hw
    exact ⟨hw ▸ h, nofun⟩
  | cons key rest ih =>
    obtain ⟨t, u, rfl, hu, -⟩ := exists_table_of_find? (Option.isSome_of_eq_some hw)
    rw [Table.find?_cons, hu, Option.bind_some] at hw
    cases h with
    | plain hplain => cases hplain
    | table once keys below =>
      -- the entry under the key is addressable, so the rest of the path is plain, and so is the key
      obtain ⟨haddressable, hrest⟩ := ih (below _ (Table.mem_of_get? hu)) hw
      refine ⟨haddressable, ?_⟩
      intro k hk
      rcases List.mem_cons.1 hk with rfl | hk
      · exact keys k (Table.mem_keys_of_get? hu)
      · exact hrest k hk

/-- The branches of an addressable tree are the leaves that lookups find. -/
theorem Addressable.mem_branches_iff (h : v.Addressable) :
    (p, w) ∈ v.branches ↔ v.find? p = some w ∧ w.isLeaf = true := by
  constructor
  · -- from the branches to the tree by induction on the tree
    intro hmem
    induction h generalizing p with
    | @plain v hv =>
      have hleaf := isLeaf_of_not_table hv
      rw [branches_of_isLeaf hleaf, List.mem_singleton] at hmem
      obtain ⟨rfl, rfl⟩ := Prod.mk.inj hmem
      exact ⟨find?_nil _, hleaf⟩
    | @table t once keys below ih =>
      rcases eq_or_ne t [] with rfl | hne
      · obtain ⟨rfl, rfl⟩ := Prod.mk.inj (List.mem_singleton.1 hmem)
        exact ⟨find?_nil _, rfl⟩
      · rw [branches_table hne] at hmem
        obtain ⟨f, hf, g, hg, heq⟩ := Table.mem_branches.1 hmem
        obtain ⟨rfl, rfl⟩ := Prod.mk.inj heq
        obtain ⟨hfind, hleaf⟩ := ih f hf hg
        refine ⟨?_, hleaf⟩
        rw [Table.find?_cons, Table.get?_of_mem once hf]
        exact hfind
  · rintro ⟨hfind, hleaf⟩
    -- from the tree to the branches by induction on the path; no key needs to be plain for that
    clear h
    induction p generalizing v with
    | nil =>
      obtain rfl := Option.some.inj ((find?_nil v).symm.trans hfind)
      rw [branches_of_isLeaf hleaf]
      exact List.mem_singleton_self _
    | cons key rest ih =>
      obtain ⟨t, u, rfl, hu, -⟩ := exists_table_of_find? (Option.isSome_of_eq_some hfind)
      rw [Table.find?_cons, hu, Option.bind_some] at hfind
      have hmem := Table.mem_of_get? hu
      rw [branches_table (List.ne_nil_of_mem hmem)]
      exact Table.mem_branches.2 ⟨_, hmem, _, ih hfind, rfl⟩

end Value

/-! ### Document order -/

/-- A path is before another one in the order of a document: where they part, its key is the
earlier one. -/
inductive Table.Before : Table → Path → Path → Prop
  | part {t : Table} {k l : String} {p q : Path} (h : [k, l].Sublist (keys t)) :
      Before t (k :: p) (l :: q)
  | inside {t s : Table} {key : String} {p q : Path} (hs : get? t key = some (.table s))
      (h : Before s p q) : Before t (key :: p) (key :: q)

namespace Table

variable {s t : Table} {key : String} {p q : Path} {v : Value}

/-- An entry in front of all others changes nothing about their order. -/
theorem Before.cons (h : Before t p q) (hkey : key ∉ keys t) : Before ((key, v) :: t) p q := by
  cases h with
  | part h => exact .part (h.cons key)
  | @inside _ s k _ _ hs h =>
    have hne : key ≠ k := fun e => hkey (e ▸ mem_keys_of_get? hs)
    refine .inside ?_ h
    rw [get?, if_neg hne]
    exact hs

theorem Before.ne (h : Before t p q) (ht : (Value.table t).Addressable) : p ≠ q := by
  rintro rfl
  induction p generalizing t with
  | nil => cases h
  | cons key rest ih =>
    cases ht with
    | plain hplain => cases hplain
    | table once _ below =>
      cases h with
      | part h => exact (List.nodup_iff_sublist.1 once key) h
      | inside hs h => exact ih (below _ (mem_of_get? hs)) h

theorem pairwise_branches_of (once : (keys t).Nodup)
    (h : ∀ e ∈ t, ∀ s, e.2 = .table s → (branches s).Pairwise fun e f => Before s e.1 f.1) :
    (branches t).Pairwise fun e f => Before t e.1 f.1 := by
  induction t with
  | nil => exact .nil
  | cons f rest ih =>
    rcases f with ⟨key, v⟩
    rw [keys_cons, List.nodup_cons] at once
    rw [branches, List.pairwise_append, List.pairwise_map]
    refine ⟨?_, ?_, ?_⟩
    · -- below the first entry the order is that of its table
      rcases v.isLeaf_or_table with hleaf | ⟨s, hne, rfl⟩
      · rw [Value.branches_of_isLeaf hleaf]
        exact List.pairwise_singleton _ _
      · rw [Value.branches_table hne]
        refine (h _ List.mem_cons_self s rfl).imp fun hbefore => ?_
        exact .inside (by simp [get?]) hbefore
    · have hrest := ih once.2 fun e he => h e (List.mem_cons_of_mem _ he)
      exact hrest.imp fun hbefore => hbefore.cons once.1
    · -- a later entry has a later key
      intro e he f hf
      obtain ⟨g, -, rfl⟩ := List.mem_map.1 he
      obtain ⟨f', hf', g', -, rfl⟩ := mem_branches.1 hf
      refine .part (List.Sublist.cons_cons key ?_)
      exact List.singleton_sublist.2 (List.mem_map_of_mem hf')

end Table

/-- The branches of an addressable tree stand in the order of the document. -/
theorem Value.Addressable.pairwise_branches {t : Table} (h : (Value.table t).Addressable) :
    (Table.branches t).Pairwise fun e f => Table.Before t e.1 f.1 := by
  generalize hv : Value.table t = v at h
  induction h generalizing t with
  | plain hplain =>
    subst hv
    cases hplain
  | table once keys below ih =>
    obtain rfl := Value.table.inj hv
    exact Table.pairwise_branches_of once fun e he s hs => ih e he hs.symm

/-! ### Trees from their branches -/

namespace Table

variable {s t : Table} {key : String} {v w : Value}

theorem put_put (t : Table) (key : String) (v w : Value) :
    put (put t key v) key w = put t key w := by
  induction t with
  | nil => simp [put]
  | cons e rest ih =>
    rcases e with ⟨k, u⟩
    by_cases hk : k = key
    · simp [put, hk]
    · simp [put, hk, ih]

theorem put_of_notMem (h : key ∉ keys t) (v : Value) : put t key v = t ++ [(key, v)] := by
  induction t with
  | nil => rfl
  | cons e rest ih =>
    rcases e with ⟨k, u⟩
    rw [keys_cons, List.mem_cons, not_or] at h
    rw [put, if_neg (Ne.symm h.1), ih h.2]
    rfl

end Table

/-- What is there when values were assigned to their paths one by one. -/
def Value.assignedAll (v : Option Value) (l : List (Path × Value)) : Option Value :=
  l.foldl (fun v e => some (assigned v e.1 e.2)) v

namespace Value

variable {s t : Table} {key : String} {v : Value} {l : List (Path × Value)}

theorem assignedAll_cons (v : Option Value) (p : Path) (x : Value) (l : List (Path × Value)) :
    assignedAll v ((p, x) :: l) = assignedAll (some (assigned v p x)) l := rfl

theorem assignedAll_append (v : Option Value) (l m : List (Path × Value)) :
    assignedAll v (l ++ m) = assignedAll (assignedAll v l) m :=
  List.foldl_append

/-- Below one key values are assigned as they are without it. -/
theorem assignedAll_below (s : Table) (key : String) (u : Value) (l : List (Path × Value)) :
    ∃ w, assignedAll (some u) l = some w ∧
      assignedAll (some (.table (Table.put s key u))) (l.map fun e => (key :: e.1, e.2)) =
        some (.table (Table.put s key w)) := by
  induction l generalizing u with
  | nil => exact ⟨u, rfl, rfl⟩
  | cons e rest ih =>
    rcases e with ⟨p, x⟩
    -- after the first assignment the table holds another value under the key
    obtain ⟨w, hw, hbelow⟩ := ih (assigned (some u) p x)
    refine ⟨w, hw, ?_⟩
    rw [List.map_cons, assignedAll_cons, assigned_cons]
    simp only [entries, Table.get?_put, if_true, Table.put_put]
    exact hbelow

theorem branches_ne_nil_of {t : Table} (hne : t ≠ []) (h : ∀ e ∈ t, e.2.branches ≠ []) :
    ∃ key p x l, Table.branches t = (key :: p, x) :: l := by
  rcases t with - | ⟨⟨key, v⟩, rest⟩
  · exact absurd rfl hne
  · obtain ⟨⟨p, x⟩, l, hl⟩ := List.exists_cons_of_ne_nil (h _ List.mem_cons_self)
    exact ⟨key, p, x, _, by rw [Table.branches, hl]; rfl⟩

/-- There is a leaf below every value. -/
theorem branches_ne_nil (v : Value) : v.branches ≠ [] := by
  induction v using Value.induction_entries with
  | plain v hv =>
    rw [branches_of_isLeaf (isLeaf_of_not_table hv)]
    exact List.cons_ne_nil _ _
  | table t ih =>
    rcases eq_or_ne t [] with rfl | hne
    · exact List.cons_ne_nil _ _
    · obtain ⟨key, p, x, l, hl⟩ := branches_ne_nil_of hne ih
      rw [branches_table hne, hl]
      exact List.cons_ne_nil _ _

theorem assignedAll_entry (hkey : key ∉ Table.keys s) (hv : assignedAll none v.branches = some v) :
    assignedAll (some (.table s)) (v.branches.map fun e => (key :: e.1, e.2)) =
      some (.table (s ++ [(key, v)])) := by
  obtain ⟨⟨p, x⟩, l, hl⟩ := List.exists_cons_of_ne_nil v.branches_ne_nil
  rw [hl, assignedAll_cons] at hv
  rw [hl, List.map_cons, assignedAll_cons, assigned_cons]
  simp only [entries, Table.get?_eq_none_iff.2 hkey]
  obtain ⟨w, hw, hbelow⟩ := assignedAll_below s key (assigned none p x) l
  obtain rfl := Option.some.inj (hv.symm.trans hw)
  rw [hbelow, Table.put_of_notMem hkey]

/-- The branches of a table assigned behind other entries give the table behind them. -/
theorem assignedAll_branches_of (hnodup : (Table.keys (s ++ t)).Nodup)
    (h : ∀ e ∈ t, assignedAll none e.2.branches = some e.2) :
    assignedAll (some (.table s)) (Table.branches t) = some (.table (s ++ t)) := by
  induction t generalizing s with
  | nil => rw [List.append_nil]; rfl
  | cons e rest ih =>
    rcases e with ⟨key, v⟩
    -- the branches of the first entry rebuild it at the end of the table, where its key is new
    have hsplit : s ++ (key, v) :: rest = (s ++ [(key, v)]) ++ rest := by
      rw [List.append_assoc]
      rfl
    have hkey : key ∉ Table.keys s := by
      intro hmem
      rw [Table.keys, List.map_append, List.nodup_append] at hnodup
      exact hnodup.2.2 key hmem key List.mem_cons_self rfl
    rw [hsplit] at hnodup ⊢
    rw [Table.branches, assignedAll_append, assignedAll_entry hkey (h _ List.mem_cons_self)]
    exact ih hnodup fun e he => h e (List.mem_cons_of_mem _ he)

/-- Nothing and an empty table are alike for the branches of a table. -/
theorem assignedAll_none_branches (hne : t ≠ []) :
    assignedAll none (Table.branches t) = assignedAll (some (.table [])) (Table.branches t) := by
  obtain ⟨key, p, x, l, hl⟩ := branches_ne_nil_of hne fun e _ => e.2.branches_ne_nil
  rw [hl]
  rfl

/-- The branches of an addressable tree, assigned one by one, give the tree back. -/
theorem Addressable.assignedAll_branches (h : v.Addressable) :
    assignedAll none v.branches = some v := by
  induction h with
  | plain hv =>
    rw [branches_of_isLeaf (isLeaf_of_not_table hv)]
    rfl
  | @table t once keys below ih =>
    rcases eq_or_ne t [] with rfl | hne
    · rfl
    · rw [branches_table hne, assignedAll_none_branches hne]
      exact assignedAll_branches_of once ih

end Value

/-! ### Leaves -/

namespace Table

variable {t u : Table} {p : Path} {w : Value}

/-- The branches of an addressable table are the leaves below its root that lookups find. -/
theorem mem_branches_iff (h : (Value.table t).Addressable) :
    (p, w) ∈ branches t ↔ p ≠ [] ∧ t.find? p = some w ∧ w.isLeaf = true := by
  rcases eq_or_ne t [] with rfl | hne
  · constructor
    · intro hmem
      cases hmem
    · rintro ⟨hp, hfind, -⟩
      obtain ⟨key, rest, rfl⟩ := List.exists_cons_of_ne_nil hp
      cases hfind
  · rw [← Value.branches_table hne, h.mem_branches_iff]
    constructor
    · -- a table with an entry is no leaf, so the path is not empty
      rintro ⟨hfind, hleaf⟩
      refine ⟨?_, hfind, hleaf⟩
      rintro rfl
      rw [Value.find?_nil, Option.some.injEq] at hfind
      obtain ⟨e, rest, rfl⟩ := List.exists_cons_of_ne_nil hne
      rw [← hfind] at hleaf
      cases hleaf
    · rintro ⟨-, hfind, hleaf⟩
      exact ⟨hfind, hleaf⟩

theorem plain_of_mem_branches (h : (Value.table t).Addressable) {e : Path × Value}
    (he : e ∈ branches t) : e.1.Plain :=
  (h.of_find? ((mem_branches_iff h).1 he).2.1).2

/-- The leaves of an addressable table are its branches with the texts of their paths. -/
theorem leaves_eq_text (h : (Value.table t).Addressable) :
    leaves "" t = (branches t).map fun e => (e.1.text, e.2) := by
  rw [leaves_eq_branches]
  apply List.map_congr_left
  intro e he
  rw [Path.spelled, Path.foldl_extend_empty (plain_of_mem_branches h he)]

/-- Reading the texts of the leaves gives the branches back. -/
theorem ofText_leaves (h : (Value.table t).Addressable) :
    (leaves "" t).map (fun e => (Path.ofText e.1, e.2)) = branches t := by
  rw [leaves_eq_text h, List.map_map]
  calc (branches t).map _ = (branches t).map id := by
        apply List.map_congr_left
        intro e he
        show (Path.ofText e.1.text, e.2) = e
        rw [Path.ofText_text (plain_of_mem_branches h he)]
    _ = branches t := List.map_id _

/-- The leaves of an addressable table stand in the order of the document. -/
theorem pairwise_leaves (h : (Value.table t).Addressable) :
    (leaves "" t).Pairwise fun e f => Before t (Path.ofText e.1) (Path.ofText f.1) := by
  have hordered := h.pairwise_branches
  rwa [← ofText_leaves h, List.pairwise_map] at hordered

theorem nodup_leaves (h : (Value.table t).Addressable) :
    ((leaves "" t).map fun e => e.1).Nodup := by
  rw [List.Nodup, List.pairwise_map]
  refine (pairwise_leaves h).imp fun hbefore htext => ?_
  exact hbefore.ne h (congrArg Path.ofText htext)

/-- The leaves of an addressable table are what lookups of the texts of plain paths find. -/
theorem mem_leaves_iff (h : (Value.table t).Addressable) {s : String} :
    (s, w) ∈ leaves "" t ↔
      ∃ p : Path, p ≠ [] ∧ p.Plain ∧ s = p.text ∧ t.find? p = some w ∧ w.isLeaf = true := by
  rw [leaves_eq_text h, List.mem_map]
  constructor
  · rintro ⟨⟨p, v⟩, he, heq⟩
    obtain ⟨rfl, rfl⟩ := Prod.mk.inj heq
    obtain ⟨hp, hfind, hleaf⟩ := (mem_branches_iff h).1 he
    exact ⟨p, hp, plain_of_mem_branches h he, rfl, hfind, hleaf⟩
  · rintro ⟨p, hp, -, rfl, hfind, hleaf⟩
    exact ⟨(p, w), (mem_branches_iff h).2 ⟨hp, hfind, hleaf⟩, rfl⟩

/-- An addressable table is told by its leaves. -/
theorem eq_of_leaves_eq (ht : (Value.table t).Addressable) (hu : (Value.table u).Addressable)
    (h : leaves "" u = leaves "" t) : u = t := by
  -- each table is what its branches assign, one after the other, to an empty one
  have hroot : ∀ s : Table, (Value.table s).Addressable →
      Value.assignedAll (some (.table [])) (branches s) = some (.table s) := by
    intro s hs
    rcases eq_or_ne s [] with rfl | hne
    · rfl
    · have hall := hs.assignedAll_branches
      rwa [Value.branches_table hne, Value.assignedAll_none_branches hne] at hall
  -- the paths are read back from their texts, so the leaves give the branches
  have hbranches : branches u = branches t := by
    rw [← ofText_leaves hu, h, ofText_leaves ht]
  have hsame : some (Value.table u) = some (Value.table t) := by
    rw [← hroot u hu, hbranches, hroot t ht]
  exact Value.table.inj (Option.some.inj hsame)

/-- **Leaves and lookups are inverse to each other.**  The leaves of an addressable table have
different paths, and a lookup of each path finds the leaf.  The other way round every leaf that the
lookup of a path finds is listed under the text of the path, once and in the order of the document.
No other table has the same list of leaves. -/
theorem leaves_lookup_inverse (h : (Value.table t).Addressable) :
    ((leaves "" t).map fun e => e.1).Nodup ∧
      (∀ e ∈ leaves "" t, t.find? (Path.ofText e.1) = some e.2 ∧ e.2.isLeaf = true) ∧
      (∀ p : Path, p ≠ [] → p.Plain → ∀ v, t.find? (Path.ofText p.text) = some v →
        v.isLeaf = true →
          (p.text, v) ∈ leaves "" t ∧ ((leaves "" t).map fun e => e.1).count p.text = 1) ∧
      ((leaves "" t).Pairwise fun e f => Before t (Path.ofText e.1) (Path.ofText f.1)) ∧
      ∀ u : Table, (Value.table u).Addressable → leaves "" u = leaves "" t → u = t := by
  refine ⟨nodup_leaves h, ?_, ?_, pairwise_leaves h, fun u hu => eq_of_leaves_eq h hu⟩
  · rintro ⟨s, w⟩ he
    obtain ⟨p, -, hplain, rfl, hfind, hleaf⟩ := (mem_leaves_iff h).1 he
    rw [Path.ofText_text hplain]
    exact ⟨hfind, hleaf⟩
  · intro p hp hplain v hfind hleaf
    rw [Path.ofText_text hplain] at hfind
    -- the text of the path is that of a leaf, and it occurs once since the texts are distinct
    have hmem : (p.text, v) ∈ leaves "" t := (mem_leaves_iff h).2 ⟨p, hp, hplain, rfl, hfind, hleaf⟩
    refine ⟨hmem, ?_⟩
    apply List.count_eq_one_of_mem (nodup_leaves h)
    exact List.mem_map_of_mem hmem

/-- A table with tables in it, one without entries, and an array, which is a leaf whatever its
items are. -/
def nested : Table :=
  [("web", .table [("demo", .table []), ("name", .text "Index")]), ("website", .null),
    ("tags", .array [.table [("a.b", .null)]])]

/-- The table without entries is a leaf at its path, and the keys of a table in an array do not
matter. -/
theorem leaves_lookup_inverse_nested :
    (Value.table nested).Addressable ∧
      leaves "" nested = [("web.demo", .table []), ("web.name", .text "Index"),
        ("website", .null), ("tags", .array [.table [("a.b", .null)]])] ∧
      nested.find? (Path.ofText "web.demo") = some (.table []) ∧
      ((leaves "" nested).map fun e => e.1).count "web.demo" = 1 ∧
      ∀ u : Table, (Value.table u).Addressable → leaves "" u = leaves "" nested → u = nested := by
  have hdemo : (Value.table []).Addressable := .table (by decide) (by decide) nofun
  have hweb : (Value.table [("demo", .table []), ("name", .text "Index")]).Addressable := by
    apply Value.Addressable.table (by decide) (by decide)
    exact List.forall_mem_cons.2 ⟨hdemo, List.forall_mem_singleton.2 (.plain rfl)⟩
  have haddressable : (Value.table nested).Addressable := by
    apply Value.Addressable.table (by decide) (by decide)
    refine List.forall_mem_cons.2 ⟨hweb, List.forall_mem_cons.2 ⟨.plain rfl, ?_⟩⟩
    exact List.forall_mem_singleton.2 (.plain rfl)
  have hfind : nested.find? (Path.ofText "web.demo") = some (.table []) := by decide +kernel
  obtain ⟨-, -, hlisted, -, htold⟩ := leaves_lookup_inverse haddressable
  refine ⟨haddressable, by decide +kernel, hfind, ?_, htold⟩
  exact (hlisted ["web", "demo"] (by decide) (by decide) _ hfind rfl).2

end Table

end LayeredSettings
