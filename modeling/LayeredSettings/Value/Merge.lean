/-
LayeredSettings/Value/Merge.lean

One configuration tree over another: where both hold a table the entries are
merged key by key, and anywhere else the upper value replaces the lower one
with all that is below it.  Keys of the lower table keep their place, new keys
follow in the order of the upper table.

`Table.get?_merge` says what the merge holds at a key, and nothing else about
the merge is ever needed: a key of one table only keeps its value, a key of
both holds the merge of the two values.
-/
import LayeredSettings.Value

namespace LayeredSettings

namespace Table

/-- The entries of a table whose keys are not among some keys. -/
def without (t : Table) (ks : List String) : Table := t.filter fun e => !ks.contains e.1

end Table

mutual

/-- The upper value over the lower one. -/
def Value.merge : Value → Value → Value
  | .table lower, .table upper =>
      .table (Table.updated lower upper ++ Table.without upper (Table.keys lower))
  | _, upper => upper

/-- The entries of a lower table, each with the upper value of its key merged over it. -/
def Table.updated : List (String × Value) → List (String × Value) → List (String × Value)
  | [], _ => []
  | (key, v) :: rest, upper =>
      (key, match Table.get? upper key with
        | some w => Value.merge v w
        | none => v) :: Table.updated rest upper

end

/-- The upper table over the lower one. -/
def Table.merge (lower upper : Table) : Table :=
  Table.updated lower upper ++ Table.without upper (Table.keys lower)

theorem Value.merge_table (lower upper : Table) :
    Value.merge (.table lower) (.table upper) = .table (Table.merge lower upper) := by
  simp [Value.merge, Table.merge]

theorem Value.merge_of_not_table_left {v : Value} (h : v.isTable = false) (w : Value) :
    Value.merge v w = w := by
  cases v <;> simp_all [Value.merge, Value.isTable]

theorem Value.merge_of_not_table_right (v : Value) {w : Value} (h : w.isTable = false) :
    Value.merge v w = w := by
  cases w <;> cases v <;> simp_all [Value.merge, Value.isTable]

/-- What holds at a key when one optional value lies over another. -/
def Value.mergeOptional : Option Value → Option Value → Option Value
  | some v, some w => some (Value.merge v w)
  | some v, none => some v
  | none, w => w

namespace Table

theorem get?_append (s t : Table) (key : String) :
    get? (s ++ t) key = (get? s key).or (get? t key) := by
  induction s with
  | nil => simp [get?]
  | cons e rest ih =>
    rcases e with ⟨k, v⟩
    by_cases h : k = key
    · simp [get?, h]
    · simpa [get?, h] using ih

theorem get?_without (t : Table) (ks : List String) (key : String) :
    get? (without t ks) key = if ks.contains key then none else get? t key := by
  induction t with
  | nil => simp [without, get?]
  | cons e rest ih =>
    rcases e with ⟨k, v⟩
    by_cases hk : k ∈ ks
    · have hf : without ((k, v) :: rest) ks = without rest ks := by simp [without, hk]
      rw [hf, ih]
      by_cases h : k = key
      · subst h; simp [hk]
      · simp [get?, h]
    · have hf : without ((k, v) :: rest) ks = (k, v) :: without rest ks := by simp [without, hk]
      rw [hf, get?, get?, ih]
      by_cases h : k = key
      · subst h; simp [hk]
      · simp [h]

theorem get?_updated (lower upper : Table) (key : String) :
    get? (updated lower upper) key =
      match get? lower key with
      | some v => Value.mergeOptional (some v) (get? upper key)
      | none => none := by
  induction lower with
  | nil => simp [updated, get?]
  | cons e rest ih =>
    rcases e with ⟨k, v⟩
    by_cases h : k = key
    · subst h
      cases hu : get? upper k <;> simp [updated, get?, hu, Value.mergeOptional]
    · simpa [updated, get?, h] using ih

/-- What a merge holds at a key. -/
theorem get?_merge (lower upper : Table) (key : String) :
    get? (merge lower upper) key = Value.mergeOptional (get? lower key) (get? upper key) := by
  rw [merge, get?_append, get?_updated, get?_without]
  cases h : get? lower key with
  | none =>
    have hk : key ∉ keys lower := get?_eq_none_iff.1 h
    simp [hk, Value.mergeOptional]
  | some v =>
    cases hu : get? upper key <;> simp [Value.mergeOptional]

end Table

end LayeredSettings
