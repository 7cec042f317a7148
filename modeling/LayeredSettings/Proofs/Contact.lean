/-
LayeredSettings/Proofs/Contact.lean

How a path meets a tree.  Looking up a path says only whether a value is there;
for what lies over what, it matters why nothing is:

    misses      a table on the way has no such key
    blocks      something that is no table stands on the way
    holds v     the path ends at v

Main result: `Value.find?_merge`.  The merge of two trees holds at a path what
the upper one does with it.  Where the path misses the upper tree the lower one
shows through, where the upper tree blocks it nothing is there, and where the
upper tree holds a value, that value lies over what the lower tree holds.
-/
import LayeredSettings.Path
import LayeredSettings.Value.Merge

namespace LayeredSettings

/-- How a path meets a tree. -/
inductive Contact where
  | misses
  | blocks
  | holds (v : Value)
  deriving DecidableEq

/-- The value that a path ends at. -/
def Contact.found? : Contact → Option Value
  | .holds v => some v
  | _ => none

/-- How a path meets a value. -/
def Value.contact : Path → Value → Contact
  | [], v => .holds v
  | key :: rest, .table entries =>
      match Table.get? entries key with
      | some v => Value.contact rest v
      | none => .misses
  | _ :: _, _ => .blocks

theorem Table.find?_cons (t : Table) (key : String) (rest : Path) :
    Value.find? (key :: rest) (.table t) = (Table.get? t key).bind (Value.find? rest) := by
  rcases e : Table.get? t key with - | v <;> simp [Value.find?, e]

namespace Value

/-! ### Tables and the rest -/

theorem eq_table_or_not_table (v : Value) : (∃ t, v = .table t) ∨ v.isTable = false := by
  cases v <;> simp [isTable]

@[simp] theorem find?_nil (v : Value) : find? [] v = some v := by
  simp [find?]

@[simp] theorem contact_nil (v : Value) : contact [] v = .holds v := by
  simp [contact]

theorem find?_cons_of_not_table {v : Value} (h : v.isTable = false) (key : String)
    (rest : Path) : find? (key :: rest) v = none := by
  cases v <;> simp_all [find?, isTable]

theorem contact_cons_of_not_table {v : Value} (h : v.isTable = false) (key : String)
    (rest : Path) : contact (key :: rest) v = .blocks := by
  cases v <;> simp_all [contact, isTable]

/-- What holds something below a key is a table. -/
theorem exists_table_of_find? {v : Value} {key : String} {rest : Path}
    (h : (v.find? (key :: rest)).isSome) :
    ∃ t w, v = .table t ∧ Table.get? t key = some w ∧ (w.find? rest).isSome := by
  rcases v.eq_table_or_not_table with ⟨t, rfl⟩ | hv
  · rcases e : Table.get? t key with - | w
    · simp [find?, e] at h
    · exact ⟨t, w, rfl, e, by simpa [find?, e] using h⟩
  · rw [find?_cons_of_not_table hv] at h
    cases h

/-! ### Contact and lookup -/

/-- A lookup finds the value that the path ends at, and nothing else. -/
theorem find?_eq_found? (p : Path) (v : Value) : find? p v = (contact p v).found? := by
  induction p generalizing v with
  | nil => simp [Contact.found?]
  | cons key rest ih =>
    rcases v.eq_table_or_not_table with ⟨t, rfl⟩ | hv
    · rcases e : Table.get? t key with - | u
      · simp [find?, contact, e, Contact.found?]
      · simpa [find?, contact, e] using ih u
    · rw [find?_cons_of_not_table hv, contact_cons_of_not_table hv]
      rfl

theorem find?_eq_some_iff_contact {p : Path} {v w : Value} :
    find? p v = some w ↔ contact p v = .holds w := by
  rw [find?_eq_found?]
  rcases contact p v with - | - | x <;> simp [Contact.found?]

/-- Nothing blocks a path to a value. -/
theorem not_blocks_of_find? {p : Path} {v w : Value} (h : find? p v = some w) :
    contact p v ≠ .blocks := by
  rw [find?_eq_some_iff_contact.1 h]
  exact Contact.noConfusion

/-- A path that goes on below a value meets what is below it. -/
theorem contact_append {p : Path} {v w : Value} (h : find? p v = some w) (q : Path) :
    contact (p ++ q) v = contact q w := by
  induction p generalizing v with
  | nil =>
    obtain rfl := Option.some.inj ((find?_nil v).symm.trans h)
    rfl
  | cons key rest ih =>
    obtain ⟨t, u, rfl, hu, -⟩ := exists_table_of_find? (Option.isSome_of_eq_some h)
    rw [Table.find?_cons, hu, Option.bind_some] at h
    rw [List.cons_append, contact, hu]
    exact ih h

/-- A tree blocks a path by a value that is no table at a proper part of the path. -/
theorem contact_eq_blocks_iff {p : Path} {v : Value} :
    contact p v = .blocks ↔
      ∃ q rest w, p = q ++ rest ∧ rest ≠ [] ∧ find? q v = some w ∧ w.isTable = false := by
  induction p generalizing v with
  | nil => simp
  | cons key rest ih =>
    rcases v.eq_table_or_not_table with ⟨t, rfl⟩ | hv
    · constructor
      · intro h
        rcases e : Table.get? t key with - | u
        · simp [contact, e] at h
        · obtain ⟨q, tail, w, rfl, ht, hw, hn⟩ := ih.1 (by simpa [contact, e] using h)
          exact ⟨key :: q, tail, w, rfl, ht, by simpa [find?, e] using hw, hn⟩
      · -- what blocks the path is not the table itself, so it lies below the key
        rintro ⟨q, tail, w, hp, ht, hw, hn⟩
        rcases q with - | ⟨k, q⟩
        · rw [find?_nil] at hw
          obtain rfl := Option.some.inj hw
          simp [isTable] at hn
        · simp only [List.cons_append, List.cons.injEq] at hp
          obtain ⟨rfl, rfl⟩ := hp
          rcases e : Table.get? t key with - | u
          · simp [find?, e] at hw
          · have hu : contact (q ++ tail) u = .blocks :=
              ih.2 ⟨q, tail, w, rfl, ht, by simpa [find?, e] using hw, hn⟩
            simpa [contact, e] using hu
    · have h : contact (key :: rest) v = .blocks := contact_cons_of_not_table hv key rest
      simp only [h, true_iff]
      exact ⟨[], key :: rest, v, rfl, by simp, find?_nil v, hv⟩

/-! ### Merged trees -/

theorem isTable_merge_table (v : Value) (t : Table) : (merge v (.table t)).isTable = true := by
  rcases v.eq_table_or_not_table with ⟨s, rfl⟩ | hv
  · rw [merge_table]
    rfl
  · rw [merge_of_not_table_left hv]
    rfl

theorem mergeOptional_of_not_table (v : Option Value) {w : Value} (h : w.isTable = false) :
    mergeOptional v (some w) = some w := by
  rcases v with - | v
  · rfl
  · rw [mergeOptional, merge_of_not_table_right v h]

/-- What comes out is a table exactly if the upper value is one. -/
theorem isTable_of_mergeOptional {v : Option Value} {w x : Value}
    (h : mergeOptional v (some w) = some x) : x.isTable = w.isTable := by
  rcases w.eq_table_or_not_table with ⟨t, rfl⟩ | hw
  · rcases v with - | v
    · obtain rfl := Option.some.inj h
      rfl
    · obtain rfl := Option.some.inj h
      exact isTable_merge_table v t
  · rw [mergeOptional_of_not_table v hw] at h
    obtain rfl := Option.some.inj h
    rfl

/-- What a merged tree holds at a path is decided by how the path meets the upper tree. -/
theorem find?_merge (p : Path) (v w : Value) :
    find? p (merge v w) =
      match contact p w with
      | .misses => find? p v
      | .blocks => none
      | .holds x => mergeOptional (find? p v) (some x) := by
  induction p generalizing v w with
  | nil => simp [mergeOptional]
  | cons key rest ih =>
    rcases w.eq_table_or_not_table with ⟨upper, rfl⟩ | hw
    · rcases v.eq_table_or_not_table with ⟨lower, rfl⟩ | hv
      · rw [merge_table]
        rcases el : Table.get? lower key with - | x <;>
          rcases eu : Table.get? upper key with - | y
        · simp [find?, contact, Table.get?_merge, el, eu, mergeOptional]
        · -- the subtree of the upper table stands alone
          have hy := find?_eq_found? rest y
          rcases e : contact rest y with - | - | x <;>
            simp_all [find?, contact, Table.get?_merge, mergeOptional, Contact.found?]
        · simp [find?, contact, Table.get?_merge, el, eu, mergeOptional]
        · simpa [find?, contact, Table.get?_merge, el, eu, mergeOptional] using ih x y
      · rw [merge_of_not_table_left hv, find?_cons_of_not_table hv]
        have hu := find?_eq_found? (key :: rest) (.table upper)
        rcases e : contact (key :: rest) (.table upper) with - | - | x <;>
          simpa [e, Contact.found?, mergeOptional] using hu
    · rw [merge_of_not_table_right v hw, contact_cons_of_not_table hw]
      exact find?_cons_of_not_table hw key rest

end Value

end LayeredSettings
