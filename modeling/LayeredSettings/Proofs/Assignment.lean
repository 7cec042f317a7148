/-
LayeredSettings/Proofs/Assignment.lean

What assignments make of a tree, and the tree that overrides are collected in.

An assignment puts a value at its path, and what is there and below is that of
the value (`Table.find?_assign_append`); it is not seen at paths that neither
lead to its path nor lie below it (`Table.find?_assign_of_not_meets`).

Overrides are assigned in the order of the names of their variables.  A variable
decides a path if it is the last one whose path meets it
(`Environment.Decides`).  Main result: `find?_collectOverrides`.  The tree holds
at the path of such a variable the value that its text stands for.
-/
import LayeredSettings.Override
import LayeredSettings.Proofs.Contact
import LayeredSettings.Proofs.Stages
import Mathlib.Data.List.Sort
import Mathlib.Data.String.Basic

namespace LayeredSettings

/-! ### Paths that meet -/

/-- One of two paths leads to the other. -/
def Path.Meets (p q : Path) : Prop := p <+: q ∨ q <+: p

theorem Path.meets_nil_left (p : Path) : Path.Meets [] p := .inl List.nil_prefix

theorem Path.meets_nil_right (p : Path) : Path.Meets p [] := .inr List.nil_prefix

/-- Below the same key paths meet as they do without it. -/
theorem Path.meets_cons {key : String} {p q : Path} :
    Path.Meets (key :: p) (key :: q) ↔ Path.Meets p q := by
  simp [Path.Meets, List.cons_prefix_cons]

/-! ### Assignments -/

namespace Table

/-- An assignment below a key goes on in a table that holds below the key what was held there:
whatever gives way to a table holds nothing. -/
theorem assign_below (t : Table) (key : String) {q : Path} (hq : q ≠ []) (v : Value) :
    ∃ s, assign t (key :: q) v = put t key (.table (assign s q v)) ∧
      ∀ p ≠ [], Value.find? p (.table s) = (get? t key).bind (Value.find? p) := by
  rcases q with - | ⟨next, q⟩
  · exact absurd rfl hq
  · -- the table below is the one that is there, or an empty one in place of anything else
    refine ⟨_, rfl, fun p hp => ?_⟩
    rcases p with - | ⟨k, p⟩
    · exact absurd rfl hp
    · rcases e : get? t key with - | u
      · rfl
      · rcases u.eq_table_or_not_table with ⟨s, rfl⟩ | hu
        · rfl
        · rw [Option.bind_some, Value.find?_cons_of_not_table hu]
          cases u with
          | table s => cases hu
          | _ => rfl

/-- What is at and below the path of an assignment is what the value holds. -/
theorem find?_assign_append {t : Table} {p : Path} (hp : p ≠ []) (rest : Path) (v : Value) :
    Value.find? (p ++ rest) (.table (assign t p v)) = Value.find? rest v := by
  induction p generalizing t with
  | nil => exact absurd rfl hp
  | cons key p ih =>
      rcases eq_or_ne p [] with rfl | hp'
      · rw [List.cons_append, find?_cons, assign, get?_put, if_pos rfl]
        rfl
      · obtain ⟨s, hs, -⟩ := assign_below t key hp' v
        rw [hs, List.cons_append, find?_cons, get?_put, if_pos rfl]
        exact ih hp'

theorem find?_assign {t : Table} {p : Path} (hp : p ≠ []) (v : Value) :
    (assign t p v).find? p = some v := by
  have hself := find?_assign_append (t := t) hp [] v
  rwa [List.append_nil, Value.find?_nil] at hself

/-- What is at a path that does not meet that of an assignment stays as it was. -/
theorem find?_assign_of_not_meets {t : Table} {p q : Path} {v : Value} (h : ¬ Path.Meets p q) :
    Value.find? p (.table (assign t q v)) = Value.find? p (.table t) := by
  induction q generalizing t p with
  | nil => exact absurd (Path.meets_nil_right p) h
  | cons key q ih =>
      rcases p with - | ⟨k, p⟩
      · exact absurd (Path.meets_nil_left _) h
      · rcases eq_or_ne key k with rfl | hk
        · rw [Path.meets_cons] at h
          have hp : p ≠ [] := by
            rintro rfl
            exact h (Path.meets_nil_left q)
          have hq : q ≠ [] := by
            rintro rfl
            exact h (Path.meets_nil_right p)
          obtain ⟨s, hs, hbelow⟩ := assign_below t key hq v
          rw [hs, find?_cons, get?_put, if_pos rfl, find?_cons, ← hbelow p hp]
          exact ih h
        · -- below another key nothing changes
          have hput : ∃ u, assign t (key :: q) v = put t key u := by
            rcases q with - | ⟨next, q⟩
            · exact ⟨v, rfl⟩
            · exact ⟨_, rfl⟩
          obtain ⟨u, hu⟩ := hput
          rw [hu, find?_cons, get?_put, if_neg hk, find?_cons]

end Table

/-! ### One variable -/

section

variable {start separator : String} {entry : String × String} {entries : List (String × String)}
  {c c' : Collected} {p q : Path} {w : Value}

theorem overridePath?_ne_nil {name : String}
    (h : overridePath? start separator name = .ok (some p)) : p ≠ [] := by
  simp only [overridePath?] at h
  split at h
  · cases h
  · split at h
    · cases h
    · split at h
      · cases h
      · rename_i rest _ _ _
        -- a text has at least one piece, so the path has a key
        have hpieces : Text.pieces separator.toList rest ≠ [] := Text.piecesAfter_ne_nil _ _ _
        cases h
        simpa using hpieces

/-- With a separator that is not empty every name can be cut. -/
theorem overridePath?_ne_error (hseparator : separator.toList ≠ []) (name : String)
    (e : Escape) :
    overridePath? start separator name ≠ .error e := by
  rw [overridePath?]
  split
  · nofun
  · rw [if_neg hseparator]
    dsimp only
    split <;> nofun

/-- How a variable is taken does not depend on the tree. -/
theorem Collected.outcome_take (start separator : String) (c : Collected)
    (entry : String × String) :
    (c.take start separator entry).outcome =
      match overridePath? start separator entry.1 with
      | .error e => .error (.escaped e)
      | .ok none => .ok c
      | .ok (some p) =>
          match overrideValue entry.2 with
          | .error e => .error (.escaped e)
          | .ok v => .ok ⟨c.tree.assign p v, c.paths ++ [p]⟩ := by
  rw [take]
  rcases overridePath? start separator entry.1 with e | - | p
  · rfl
  · dsimp only
    split <;> rfl
  · rcases overrideValue entry.2 with e | v <;> rfl

/-- A variable that is taken is left out or assigned. -/
theorem Collected.take_eq_ok (h : (c.take start separator entry).outcome = .ok c') :
    (overridePath? start separator entry.1 = .ok none ∧ c' = c) ∨
    ∃ q v, overridePath? start separator entry.1 = .ok (some q) ∧ overrideValue entry.2 = .ok v ∧
      c' = ⟨c.tree.assign q v, c.paths ++ [q]⟩ := by
  simp only [Collected.take] at h
  split at h
  · cases h
  · rename_i hnone
    -- the variable does not apply, with or without a warning
    refine .inl ⟨hnone, ?_⟩
    split at h <;> exact (Except.ok.inj h).symm
  · rename_i q hq
    split at h
    · cases h
    · rename_i v hv
      exact .inr ⟨q, v, hq, hv, (Except.ok.inj h).symm⟩

/-- A variable that assigns its value to a path. -/
theorem Collected.find?_take (hp : overridePath? start separator entry.1 = .ok (some p))
    (hw : overrideValue entry.2 = .ok w) (h : (c.take start separator entry).outcome = .ok c') :
    c'.tree.find? p = some w := by
  rcases take_eq_ok h with ⟨hnone, -⟩ | ⟨q, v, hq, hv, rfl⟩
  · rw [hp] at hnone
    cases hnone
  · obtain rfl : p = q := by simpa using hp.symm.trans hq
    obtain rfl : w = v := by simpa using hw.symm.trans hv
    exact Table.find?_assign (overridePath?_ne_nil hp) w

/-! ### All variables -/

theorem Collected.takeAll_append {before after : List (String × String)} :
    (Collected.takeAll start separator (before ++ after) c).outcome = .ok c' ↔
      ∃ m, (Collected.takeAll start separator before c).outcome = .ok m ∧
        (Collected.takeAll start separator after m).outcome = .ok c' := by
  induction before generalizing c with
  | nil => simp [Collected.takeAll]
  | cons e before ih =>
      simp only [List.cons_append, Collected.takeAll, Run.bind_eq, Run.outcome_bind_eq_ok, ih]
      constructor
      · rintro ⟨c₁, h₁, m, hm, hafter⟩
        exact ⟨m, ⟨c₁, h₁, hm⟩, hafter⟩
      · rintro ⟨m, ⟨c₁, h₁, hm⟩, hafter⟩
        exact ⟨c₁, h₁, m, hm, hafter⟩

theorem Collected.outcome_takeAll_append (start separator : String)
    {before : List (String × String)}
    (h : (takeAll start separator before c).outcome = .ok c') (after : List (String × String)) :
    (takeAll start separator (before ++ after) c).outcome =
      (takeAll start separator after c').outcome := by
  induction before generalizing c with
  | nil =>
    obtain rfl := Except.ok.inj h
    rfl
  | cons e before ih =>
    simp only [takeAll, Run.bind_eq, Run.outcome_bind_eq_ok] at h
    obtain ⟨c₁, htake, hrest⟩ := h
    rw [List.cons_append, takeAll, Run.bind_eq, Run.outcome_bind_of_ok htake]
    exact ih hrest

/-- What is at a path stays there if each variable that meets the path assigns the same value to
it once more. -/
theorem Collected.find?_takeAll
    (hkeeps : ∀ e ∈ entries, ∀ q, overridePath? start separator e.1 = .ok (some q) →
      Path.Meets p q → q = p ∧ overrideValue e.2 = .ok w)
    (hc : c.tree.find? p = some w)
    (h : (Collected.takeAll start separator entries c).outcome = .ok c') :
    c'.tree.find? p = some w := by
  induction entries generalizing c with
  | nil =>
      obtain rfl := Except.ok.inj h
      exact hc
  | cons e entries ih =>
      simp only [Collected.takeAll, Run.bind_eq, Run.outcome_bind_eq_ok] at h
      obtain ⟨c₁, htake, hrest⟩ := h
      refine ih (fun e' he' => hkeeps e' (List.mem_cons_of_mem e he')) ?_ hrest
      rcases take_eq_ok htake with ⟨-, rfl⟩ | ⟨q, v, hq, -, rfl⟩
      · exact hc
      · -- a later variable either sets the same path to the same value or does not meet it
        by_cases hmeets : Path.Meets p q
        · obtain ⟨rfl, hw⟩ := hkeeps e List.mem_cons_self q hq hmeets
          exact find?_take hq hw htake
        · exact (Table.find?_assign_of_not_meets hmeets).trans hc

end

/-! ### The deciding variable -/

/-- A variable overrides a path, and it is the last one in the order of names whose path meets
it. -/
structure Environment.Decides (environment : Environment) (start separator : String) (p : Path)
    (entry : String × String) : Prop where
  mem : entry ∈ environment
  path : overridePath? start separator entry.1 = .ok (some p)
  last : ∀ e ∈ environment, ∀ q, overridePath? start separator e.1 = .ok (some q) →
    Path.Meets p q → e = entry ∨ e.1 < entry.1

/-- The names of the variables. -/
def Environment.names (environment : Environment) : List String := environment.map (·.1)

theorem Environment.order_trans (a b c : String × String) :
    decide (a.1 ≤ b.1) = true → decide (b.1 ≤ c.1) = true → decide (a.1 ≤ c.1) = true := by
  simp only [decide_eq_true_eq]
  exact le_trans

theorem Environment.order_total (a b : String × String) :
    (decide (a.1 ≤ b.1) || decide (b.1 ≤ a.1)) = true := by
  simp only [Bool.or_eq_true, decide_eq_true_eq]
  exact le_total a.1 b.1

theorem Environment.sorted_perm (environment : Environment) :
    environment.sorted.Perm environment :=
  List.mergeSort_perm _ _

theorem Environment.sorted_pairwise (environment : Environment) :
    environment.sorted.Pairwise fun a b => a.1 ≤ b.1 :=
  (List.pairwise_mergeSort order_trans order_total environment).imp of_decide_eq_true

/-- Behind any variable in the order of names there are only variables with no smaller name. -/
theorem Environment.exists_sorted {environment : Environment} {entry : String × String}
    (h : entry ∈ environment) :
    ∃ before after, environment.sorted = before ++ entry :: after ∧
      ∀ e ∈ after, e ∈ environment ∧ entry.1 ≤ e.1 := by
  have hperm := environment.sorted_perm
  obtain ⟨before, after, hsplit⟩ := List.append_of_mem (hperm.mem_iff.2 h)
  have hordered := environment.sorted_pairwise
  rw [hsplit] at hordered hperm
  refine ⟨before, after, hsplit, fun e he => ⟨hperm.mem_iff.1 (by simp [he]), ?_⟩⟩
  exact (List.pairwise_cons.1 (List.pairwise_append.1 hordered).2.1).1 e he

/-- One more variable in an environment stands somewhere in the order of names. -/
theorem Environment.sorted_cons (entry : String × String) (environment : Environment) :
    ∃ before after, Environment.sorted (entry :: environment) = before ++ entry :: after ∧
      environment.sorted = before ++ after := by
  obtain ⟨before, after, hmore, hsorted, -⟩ :=
    List.mergeSort_cons order_trans order_total entry environment
  exact ⟨before, after, hmore, hsorted⟩

/-- The layer of all overrides is the tree in which they are collected. -/
theorem outcome_collectOverrides (environment : Environment) (start separator : String) :
    (collectOverrides environment start separator).outcome =
      (Collected.takeAll start separator environment.sorted ⟨[], []⟩).outcome.map
        fun c => ⟨overridesLayer, c.tree⟩ := by
  rw [collectOverrides, Run.bind_eq]
  rcases htake : (Collected.takeAll start separator environment.sorted ⟨[], []⟩).outcome with f | c
  · rw [Run.outcome_bind_of_error htake]
    rfl
  · rw [Run.outcome_bind_of_ok htake]
    split <;> rfl

theorem collectOverrides_eq_ok_iff {environment : Environment} {start separator : String}
    {l : Layer} :
    (collectOverrides environment start separator).outcome = .ok l ↔
      ∃ c, (Collected.takeAll start separator environment.sorted ⟨[], []⟩).outcome = .ok c ∧
        l = ⟨overridesLayer, c.tree⟩ := by
  rw [outcome_collectOverrides]
  rcases (Collected.takeAll start separator environment.sorted ⟨[], []⟩).outcome with f | c
  · simp [Except.map]
  · simp [Except.map, eq_comm]

/-- The tree of all overrides holds at a path the value of the variable that decides it. -/
theorem find?_collectOverrides {environment : Environment} {start separator : String} {p : Path}
    {entry : String × String} {w : Value} {l : Layer}
    (h : (collectOverrides environment start separator).outcome = .ok l)
    (hdecides : environment.Decides start separator p entry)
    (hw : overrideValue entry.2 = .ok w) : l.find? p = some w := by
  obtain ⟨c, hall, rfl⟩ := collectOverrides_eq_ok_iff.1 h
  obtain ⟨before, after, hsplit, hafter⟩ := Environment.exists_sorted hdecides.mem
  rw [hsplit, Collected.takeAll_append] at hall
  obtain ⟨c₁, -, hall⟩ := hall
  simp only [Collected.takeAll, Run.bind_eq, Run.outcome_bind_eq_ok] at hall
  obtain ⟨c₂, htake, hrest⟩ := hall
  refine Collected.find?_takeAll (fun e he q hq hmeets => ?_)
    (Collected.find?_take hdecides.path hw htake) hrest
  -- what comes later has no smaller name, so it is the same variable
  obtain ⟨hmem, hle⟩ := hafter e he
  rcases hdecides.last e hmem q hq hmeets with rfl | hlt
  · exact ⟨by simpa using hq.symm.trans hdecides.path, hw⟩
  · exact absurd hle (not_le_of_gt hlt)

end LayeredSettings
