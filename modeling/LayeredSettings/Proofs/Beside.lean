/-
LayeredSettings/Proofs/Beside.lean

Trees that are the same beside a path.

Two trees are the same beside a path if they hold the same at every path that does
not meet it (`Value.SameBeside`).  An assignment at the path is not seen beside it,
and one anywhere else that is made in both trees keeps them the same beside it
(`Value.SameBeside.assigned`).

A lookup does not tell a missing key from something in the way that is no table, and
in a merge only a missing key lets the lower tree show.  Trees that do not block the
path agree on this too (`Value.SameBeside.contact`), and then they may lie over
other trees that are the same beside the path (`Value.SameBeside.merge`).

Environments that differ in the variables of one path give trees of overrides that
are the same beside this path (`Collected.takeAll_beside`), and a schema makes the
same of all members beside it (`Schema.readMember_beside`).
-/
import LayeredSettings.Proofs.Collecting
import LayeredSettings.Proofs.Veiled

namespace LayeredSettings

open Value (assigned assigned_cons entries mergeOptional)

theorem Path.meets_comm {p q : Path} : Path.Meets p q ↔ Path.Meets q p := or_comm

namespace Value

variable {p q : Path} {u v w : Option Value} {x y : Value} {key : String} {rest : Path}
  {s t : Table}

/-! ### Assignments and lookups -/

/-- What is at a path is below its first key in the entries. -/
theorem bind_find?_cons (v : Option Value) (key : String) (rest : Path) :
    v.bind (find? (key :: rest)) = (Table.get? (entries v) key).bind (find? rest) := by
  rcases noTable_or_eq_table v with hv | ⟨t, rfl⟩
  · rw [hv.entries]
    rcases v with - | v
    · rfl
    · exact find?_cons_of_not_table hv.isTable key rest
  · exact Table.find?_cons t key rest

/-- On the way to an assignment there is what was there with the rest of the assignment. -/
theorem find?_assigned_append (v : Option Value) (p q : Path) (x : Value) :
    (assigned v (p ++ q) x).find? p = some (assigned (v.bind (find? p)) q x) := by
  induction p generalizing v with
  | nil => cases v <;> rfl
  | cons key rest ih =>
    rw [List.cons_append, assigned_cons, Table.find?_cons, Table.get?_put, if_pos rfl,
      Option.bind_some, ih, bind_find?_cons]

/-- At and below the path of an assignment there is its value. -/
theorem find?_assigned_below (v : Option Value) (p rest : Path) (x : Value) :
    (assigned v p x).find? (p ++ rest) = x.find? rest := by
  rw [find?_append, find?_assigned, Option.bind_some]

/-- An assignment is not seen at paths that do not meet its own. -/
theorem find?_assigned_of_not_meets (v : Option Value) {p q : Path} (h : ¬ Path.Meets q p)
    (x : Value) : (assigned v p x).find? q = v.bind (find? q) := by
  rcases p with - | ⟨key, rest⟩
  · exact absurd (Path.meets_nil_right q) h
  · rcases q with - | ⟨k, q⟩
    · exact absurd (Path.meets_nil_left _) h
    · rw [bind_find?_cons, ← Table.find?_cons]
      exact Table.find?_assign_of_not_meets h

/-! ### The same beside a path -/

/-- Two trees hold the same at each path that does not meet a path. -/
def SameBeside (p : Path) (v w : Option Value) : Prop :=
  ∀ q, ¬ Path.Meets q p → v.bind (find? q) = w.bind (find? q)

namespace SameBeside

theorem refl (p : Path) (v : Option Value) : SameBeside p v v := fun _ _ => rfl

theorem symm (h : SameBeside p v w) : SameBeside p w v := fun q hq => (h q hq).symm

theorem trans (h : SameBeside p u v) (h' : SameBeside p v w) : SameBeside p u w :=
  fun q hq => (h q hq).trans (h' q hq)

/-- Below a key the rest of the path is left. -/
theorem entries (h : SameBeside (key :: rest) v w) :
    SameBeside rest (Table.get? (Value.entries v) key) (Table.get? (Value.entries w) key) := by
  intro q hq
  rw [← bind_find?_cons, ← bind_find?_cons]
  refine h (key :: q) ?_
  rwa [Path.meets_cons]

/-- What is no table may be taken for an empty one. -/
theorem tables (h : SameBeside (key :: rest) v w) :
    SameBeside (key :: rest) (some (.table (Value.entries v)))
      (some (.table (Value.entries w))) := by
  intro q hq
  rcases q with - | ⟨k, q⟩
  · exact absurd (Path.meets_nil_left _) hq
  · have hfind := h (k :: q) hq
    rwa [bind_find?_cons, bind_find?_cons] at hfind ⊢

/-- Under any other key there is the same. -/
theorem get?_eq (h : SameBeside (key :: rest) (some (.table s)) (some (.table t))) {k : String}
    (hk : k ≠ key) : Table.get? s k = Table.get? t k := by
  -- another key is a path of its own that does not meet this one
  have hapart : ¬ Path.Meets [k] (key :: rest) := by
    rintro (hto | hfro)
    · exact hk (List.cons_prefix_cons.1 hto).1
    · exact hk (List.cons_prefix_cons.1 hfro).1.symm
  have hself : ∀ u : Table, find? [k] (.table u) = Table.get? u k := by
    intro u
    rw [Table.find?_cons]
    cases Table.get? u k <;> rfl
  rw [← hself s, ← hself t]
  exact h [k] hapart

/-- An assignment at the path is not seen beside it. -/
theorem assigned_self (p : Path) (v : Option Value) (x : Value) :
    SameBeside p v (some (assigned v p x)) :=
  fun _ hq => (find?_assigned_of_not_meets v hq x).symm

/-- An assignment in both trees keeps them the same. -/
theorem assigned (h : SameBeside p v w) (q : Path) (y : Value) :
    SameBeside p (some (Value.assigned v q y)) (some (Value.assigned w q y)) := by
  intro r hr
  rw [Option.bind_some, Option.bind_some]
  by_cases hmeets : Path.Meets r q
  · rcases hmeets with ⟨rest, rfl⟩ | ⟨rest, rfl⟩
    · -- what is on the way was the same before, and the rest of the assignment goes into it
      rw [find?_assigned_append, find?_assigned_append, h r hr]
    · rw [find?_assigned_below, find?_assigned_below]
  · rw [find?_assigned_of_not_meets v hmeets, find?_assigned_of_not_meets w hmeets]
    exact h r hr

/-! ### Layers -/

theorem blocks_of_blocks (h : SameBeside p (some x) (some y)) (hfree : x.contact p ≠ .blocks)
    (hq : ¬ Path.Meets q p) (hblocks : x.contact q = .blocks) : y.contact q = .blocks := by
  obtain ⟨r, rest, z, rfl, hrest, hz, hplain⟩ := contact_eq_blocks_iff.1 hblocks
  have hr : ¬ Path.Meets r p := by
    rintro (⟨tail, rfl⟩ | hbelow)
    · -- what blocks here would block the path too, which ends further on
      rcases eq_or_ne tail [] with rfl | htail
      · rw [List.append_nil] at hq
        exact hq (.inr (List.prefix_append r rest))
      · exact hfree (contact_eq_blocks_iff.2 ⟨r, tail, z, rfl, htail, hz, hplain⟩)
    · exact hq (.inr (hbelow.trans (List.prefix_append r rest)))
  have hsame : find? r x = find? r y := h r hr
  exact contact_eq_blocks_iff.2 ⟨r, rest, z, rfl, hrest, hsame.symm.trans hz, hplain⟩

/-- Trees that do not block the path are met in the same way beside it. -/
theorem contact (h : SameBeside p (some x) (some y)) (hx : x.contact p ≠ .blocks)
    (hy : y.contact p ≠ .blocks) (hq : ¬ Path.Meets q p) : x.contact q = y.contact q := by
  have hfind : find? q x = find? q y := h q hq
  have hto := h.blocks_of_blocks hx hq
  have hfro := h.symm.blocks_of_blocks hy hq
  rw [find?_eq_found?, find?_eq_found?] at hfind
  -- the two are found alike, and blocked alike
  generalize x.contact q = a at hfind hto hfro
  generalize y.contact q = b at hfind hto hfro
  rcases a with - | - | a <;> rcases b with - | - | b <;> simp_all [Contact.found?]

/-- Trees that are the same beside a path, laid over trees that are. -/
theorem merge {x' y' : Value} (h : SameBeside p (some x) (some x'))
    (hupper : SameBeside p (some y) (some y')) (hy : y.contact p ≠ .blocks)
    (hy' : y'.contact p ≠ .blocks) :
    SameBeside p (some (Value.merge x y)) (some (Value.merge x' y')) := by
  intro q hq
  have hlower : find? q x = find? q x' := h q hq
  rw [Option.bind_some, Option.bind_some, find?_merge, find?_merge, hupper.contact hy hy' hq,
    hlower]

/-- Trees that hold single values at the path hold something at the same paths. -/
theorem isSome_find? {a b : Value} (h : SameBeside p (some x) (some y)) (hx : x.find? p = some a)
    (ha : a.isTable = false) (hy : y.find? p = some b) (hb : b.isTable = false) (q : Path) :
    (x.find? q).isSome = (y.find? q).isSome := by
  by_cases hq : Path.Meets q p
  · rcases hq with ⟨rest, rfl⟩ | ⟨rest, rfl⟩
    · -- there is something on the way to the path
      rw [find?_append, Option.bind_eq_some_iff] at hx hy
      obtain ⟨c, hc, -⟩ := hx
      obtain ⟨d, hd, -⟩ := hy
      rw [hc, hd]
      rfl
    · rw [find?_append, find?_append, hx, hy, Option.bind_some, Option.bind_some]
      rcases rest with - | ⟨key, rest⟩
      · rfl
      · rw [find?_cons_of_not_table ha, find?_cons_of_not_table hb]
  · have hfind : find? q x = find? q y := h q hq
    rw [hfind]

end SameBeside

/-- A path that misses a tree misses it after an assignment that it does not meet. -/
theorem contact_assigned {x : Value} (hx : x.contact p = .misses) (hq : ¬ Path.Meets p q)
    (y : Value) : (Value.assigned (some x) q y).contact p = .misses := by
  have hfind : (Value.assigned (some x) q y).find? p = none := by
    rw [find?_assigned_of_not_meets (some x) hq, Option.bind_some, find?_eq_found?, hx]
    rfl
  have hfree : (Value.assigned (some x) q y).contact p ≠ .blocks := by
    intro hblocks
    obtain ⟨r, rest, z, rfl, hrest, hz, hplain⟩ := contact_eq_blocks_iff.1 hblocks
    by_cases hmeets : Path.Meets r q
    · rcases hmeets with ⟨tail, rfl⟩ | hbelow
      · -- the assignment goes on further down, so there is a table on its way
        rw [find?_assigned_append] at hz
        obtain rfl := Option.some.inj hz
        rcases tail with - | ⟨key, tail⟩
        · rw [List.append_nil] at hq
          exact hq (.inr (List.prefix_append r rest))
        · cases hplain
      · exact hq (.inr (hbelow.trans (List.prefix_append r rest)))
    · rw [find?_assigned_of_not_meets (some x) hmeets] at hz
      rw [contact_eq_blocks_iff.2 ⟨r, rest, z, rfl, hrest, hz, hplain⟩] at hx
      cases hx
  rw [find?_eq_found?] at hfind
  generalize (Value.assigned (some x) q y).contact p = c at hfind hfree
  rcases c with - | - | c
  · rfl
  · exact absurd rfl hfree
  · cases hfind

end Value

/-! ### Overrides of one path -/

section

variable {start separator : String} {p : Path} {entries : List (String × String)}
  {c c' : Collected}

/-- Whether a variable does not override a path. -/
def leavesAlone (start separator : String) (p : Path) (entry : String × String) : Bool :=
  (target? start separator entry).all fun t => t.1 != p

theorem leavesAlone_eq_false_iff {entry : String × String} :
    leavesAlone start separator p entry = false ↔
      overridePath? start separator entry.1 = .ok (some p) := by
  rw [leavesAlone, target?]
  rcases overridePath? start separator entry.1 with e | - | q <;> simp

/-- Two tables are the same beside a path. -/
abbrev Table.SameBeside (p : Path) (s t : Table) : Prop :=
  Value.SameBeside p (some (.table s)) (some (.table t))

namespace Table.SameBeside

variable {s t : Table}

theorem assign_self (hp : p ≠ []) (t : Table) (x : Value) : t.SameBeside p (t.assign p x) := by
  rcases p with - | ⟨key, rest⟩
  · exact absurd rfl hp
  · exact Value.SameBeside.assigned_self (key :: rest) (some (.table t)) x

theorem assign (h : s.SameBeside p t) {q : Path} (hq : q ≠ []) (y : Value) :
    (s.assign q y).SameBeside p (t.assign q y) := by
  rcases q with - | ⟨key, rest⟩
  · exact absurd rfl hq
  · exact Value.SameBeside.assigned h (key :: rest) y

end Table.SameBeside

/-- What is collected from a variable that leaves a path alone is the same beside the path. -/
theorem Collected.take_beside {e : String × String} (h : c.tree.SameBeside p c'.tree) :
    Agree (fun d d' => Table.SameBeside p d.tree d'.tree) (c.take start separator e).outcome
      (c'.take start separator e).outcome := by
  rw [outcome_take, outcome_take]
  rcases hpath : overridePath? start separator e.1 with escape | - | q
  · exact .error _
  · exact .ok h
  · rcases overrideValue e.2 with escape | y
    · exact .error _
    · exact .ok (h.assign (overridePath?_ne_nil hpath) y)

/-- With and without the variables of one path the same is collected beside it. -/
theorem Collected.takeAll_beside
    (hvalues : ∀ e ∈ entries, overridePath? start separator e.1 = .ok (some p) →
      ∃ w, overrideValue e.2 = .ok w)
    (h : c.tree.SameBeside p c'.tree) :
    Agree (fun d d' => Table.SameBeside p d.tree d'.tree)
      (takeAll start separator entries c).outcome
      (takeAll start separator (entries.filter (leavesAlone start separator p)) c').outcome := by
  induction entries generalizing c c' with
  | nil => exact .ok h
  | cons e rest ih =>
    have hrest : ∀ e' ∈ rest, overridePath? start separator e'.1 = .ok (some p) →
        ∃ w, overrideValue e'.2 = .ok w := fun e' he' => hvalues e' (List.mem_cons_of_mem e he')
    rw [takeAll, Run.bind_eq]
    rcases hkeep : leavesAlone start separator p e with - | -
    · -- the variable is left out on the other side
      have hp : overridePath? start separator e.1 = .ok (some p) := leavesAlone_eq_false_iff.1 hkeep
      obtain ⟨w, hw⟩ := hvalues e List.mem_cons_self hp
      have htake : (c.take start separator e).outcome =
          .ok ⟨c.tree.assign p w, c.paths ++ [p]⟩ := by
        rw [outcome_take, hp, hw]
      have hassigned : (c.tree.assign p w).SameBeside p c'.tree :=
        (Table.SameBeside.assign_self (overridePath?_ne_nil hp) c.tree w).symm.trans h
      rw [Run.outcome_bind_of_ok htake, List.filter_cons_of_neg (by simp [hkeep])]
      exact ih hrest hassigned
    · rw [List.filter_cons_of_pos hkeep, takeAll, Run.bind_eq]
      exact (take_beside h).outcome_bind fun _ _ => ih hrest

/-- All variables that were taken have values. -/
theorem Collected.exists_value_of_takeAll (h : (takeAll start separator entries c).outcome = .ok c')
    {e : String × String} (he : e ∈ entries)
    (hp : overridePath? start separator e.1 = .ok (some p)) : ∃ w, overrideValue e.2 = .ok w := by
  induction entries generalizing c with
  | nil => cases he
  | cons first rest ih =>
    rw [takeAll, Run.bind_eq, Run.outcome_bind_eq_ok] at h
    obtain ⟨m, htake, hrest⟩ := h
    rcases List.mem_cons.1 he with rfl | he
    · -- it was taken, so it applies, and then its value was read
      rcases take_eq_ok htake with ⟨hnone, -⟩ | ⟨q, w, -, hw, -⟩
      · rw [hp] at hnone
        cases hnone
      · exact ⟨w, hw⟩
    · exact ih hrest he

variable {environment environment' : Environment}

/-- Two layers of one name that are the same beside a path. -/
structure Layer.SameBeside (p : Path) (l l' : Layer) : Prop where
  name : l.name = l'.name
  data : l.data.SameBeside p l'.data

/-- Environments whose variables are the same apart from those of one path give overrides that are
the same beside it. -/
theorem collectOverrides_beside
    (hvalues : ∀ e ∈ environment, overridePath? start separator e.1 = .ok (some p) →
      ∃ w, overrideValue e.2 = .ok w)
    (hvalues' : ∀ e ∈ environment', overridePath? start separator e.1 = .ok (some p) →
      ∃ w, overrideValue e.2 = .ok w)
    (hothers : environment.sorted.filter (leavesAlone start separator p) =
      environment'.sorted.filter (leavesAlone start separator p)) :
    Agree (Layer.SameBeside p) (collectOverrides environment start separator).outcome
      (collectOverrides environment' start separator).outcome := by
  -- each of the two is compared with what is collected without the variables of the path
  have hhalf : Agree (fun d d' => Table.SameBeside p d.tree d'.tree)
      (Collected.takeAll start separator environment.sorted ⟨[], []⟩).outcome
      (Collected.takeAll start separator
        (environment'.sorted.filter (leavesAlone start separator p)) ⟨[], []⟩).outcome := by
    rw [← hothers]
    exact Collected.takeAll_beside
      (fun e he => hvalues e (environment.sorted_perm.mem_iff.1 he)) (.refl p _)
  have hhalf' : Agree (fun d d' => Table.SameBeside p d.tree d'.tree)
      (Collected.takeAll start separator environment'.sorted ⟨[], []⟩).outcome
      (Collected.takeAll start separator
        (environment'.sorted.filter (leavesAlone start separator p)) ⟨[], []⟩).outcome :=
    Collected.takeAll_beside
      (fun e he => hvalues' e (environment'.sorted_perm.mem_iff.1 he)) (.refl p _)
  have hall := hhalf.trans hhalf'.symm
    (T := fun c c' => Table.SameBeside p c.tree c'.tree) fun _ _ _ h h' => h.trans h'.symm
  rw [outcome_collectOverrides, outcome_collectOverrides]
  generalize (Collected.takeAll start separator environment.sorted ⟨[], []⟩).outcome = x at hall
  generalize (Collected.takeAll start separator environment'.sorted ⟨[], []⟩).outcome = y at hall
  rcases hall with hbeside | e
  · exact .ok ⟨rfl, hbeside⟩
  · exact .error e

end

/-! ### Members beside a path -/

namespace Schema

variable {members : List (Name × Schema)} {s t : Table} {key : String} {rest : Path}

/-- The members beside the one that leads to a path are read the same: neither under their key nor
under their field they are where the trees differ. -/
theorem readMember_beside (hdistinct : Distinct members) {m n : Name × Schema} (hm : m ∈ members)
    (hn : n ∈ members) (hne : n.1.key ≠ m.1.key) (h : s.SameBeside (m.1.key :: rest) t) :
    readMember n s = readMember n t := by
  have hfield : n.1.field ≠ m.1.key := by
    rcases hdistinct.2 n hn with hsame | hnone
    · rwa [hsame]
    · intro hkey
      exact hnone (hkey ▸ key_mem_memberKeys hm)
  exact readMember_eq (h.get?_eq hne) (h.get?_eq hfield)

end Schema

end LayeredSettings
