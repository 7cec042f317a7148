/-
LayeredSettings/Value.lean

Configuration values: texts, numbers, dates, arrays, and tables that keep the
order of their entries.  A table is a list of entries; the first entry of a key
is the one that counts (`Table.get?`), and the operations of this library that
add an entry look for the key first (`Table.put`).
-/
import LayeredSettings.Binary64
import LayeredSettings.Calendar

namespace LayeredSettings

open Calendar

/-- A configuration value. -/
inductive Value where
  | null
  | boolean (b : Bool)
  | integer (n : Int)
  | float (x : Binary64)
  | text (s : String)
  | moment (m : Moment)
  | date (d : Date)
  | time (t : TimeOfDay)
  | array (items : List Value)
  | table (entries : List (String × Value))
  deriving Inhabited

/-- The entries of a table, in order. -/
abbrev Table := List (String × Value)

/-! ### Equality -/

mutual

/-- Whether two values are the same. -/
def Value.same : Value → Value → Bool
  | .null, .null => true
  | .boolean a, .boolean b => a == b
  | .integer a, .integer b => a == b
  | .float a, .float b => a == b
  | .text a, .text b => a == b
  | .moment a, .moment b => a == b
  | .date a, .date b => a == b
  | .time a, .time b => a == b
  | .array a, .array b => Value.sameItems a b
  | .table a, .table b => Value.sameEntries a b
  | _, _ => false

/-- Whether two lists hold the same values. -/
def Value.sameItems : List Value → List Value → Bool
  | [], [] => true
  | a :: as, b :: bs => Value.same a b && Value.sameItems as bs
  | _, _ => false

/-- Whether two tables hold the same entries in the same order. -/
def Value.sameEntries : List (String × Value) → List (String × Value) → Bool
  | [], [] => true
  | (k, a) :: as, (l, b) :: bs => k == l && Value.same a b && Value.sameEntries as bs
  | _, _ => false

end

mutual

theorem Value.eq_of_same : ∀ {a b : Value}, Value.same a b = true → a = b
  | .array a, .array b, h => by
    have h' : Value.sameItems a b = true := by simpa [Value.same] using h
    rw [Value.eq_of_sameItems h']
  | .table a, .table b, h => by
    have h' : Value.sameEntries a b = true := by simpa [Value.same] using h
    rw [Value.eq_of_sameEntries h']
  | .null, b, h => by cases b <;> simp_all [Value.same]
  | .boolean a, b, h => by cases b <;> simp_all [Value.same]
  | .integer a, b, h => by cases b <;> simp_all [Value.same]
  | .float a, b, h => by cases b <;> simp_all [Value.same]
  | .text a, b, h => by cases b <;> simp_all [Value.same]
  | .moment a, b, h => by cases b <;> simp_all [Value.same]
  | .date a, b, h => by cases b <;> simp_all [Value.same]
  | .time a, b, h => by cases b <;> simp_all [Value.same]

theorem Value.eq_of_sameItems : ∀ {a b : List Value}, Value.sameItems a b = true → a = b
  | [], [], _ => rfl
  | [], _ :: _, h => by simp [Value.sameItems] at h
  | _ :: _, [], h => by simp [Value.sameItems] at h
  | a :: as, b :: bs, h => by
    simp only [Value.sameItems, Bool.and_eq_true] at h
    rw [Value.eq_of_same h.1, Value.eq_of_sameItems h.2]

theorem Value.eq_of_sameEntries :
    ∀ {a b : List (String × Value)}, Value.sameEntries a b = true → a = b
  | [], [], _ => rfl
  | [], _ :: _, h => by simp [Value.sameEntries] at h
  | _ :: _, [], h => by simp [Value.sameEntries] at h
  | (k, a) :: as, (l, b) :: bs, h => by
    simp only [Value.sameEntries, Bool.and_eq_true, beq_iff_eq] at h
    rw [h.1.1, Value.eq_of_same h.1.2, Value.eq_of_sameEntries h.2]

end

mutual

theorem Value.same_refl : ∀ a : Value, Value.same a a = true
  | .array a => by simpa [Value.same] using Value.sameItems_refl a
  | .table a => by simpa [Value.same] using Value.sameEntries_refl a
  | .null => rfl
  | .boolean _ => by simp [Value.same]
  | .integer _ => by simp [Value.same]
  | .float _ => by simp [Value.same]
  | .text _ => by simp [Value.same]
  | .moment _ => by simp [Value.same]
  | .date _ => by simp [Value.same]
  | .time _ => by simp [Value.same]

theorem Value.sameItems_refl : ∀ a : List Value, Value.sameItems a a = true
  | [] => rfl
  | a :: as => by simp [Value.sameItems, Value.same_refl a, Value.sameItems_refl as]

theorem Value.sameEntries_refl : ∀ a : List (String × Value), Value.sameEntries a a = true
  | [] => rfl
  | (k, a) :: as => by
    simp [Value.sameEntries, Value.same_refl a, Value.sameEntries_refl as]

end

instance : DecidableEq Value := fun a b =>
  if h : Value.same a b = true then isTrue (Value.eq_of_same h)
  else isFalse fun e => h (e ▸ Value.same_refl a)

/-! ### Kinds of values -/

/-- Whether a value is a table. -/
def Value.isTable : Value → Bool
  | .table _ => true
  | _ => false

/-- Whether a value is a table or an array. -/
def Value.isContainer : Value → Bool
  | .table _ => true
  | .array _ => true
  | _ => false

/-- The entries of a value that is a table. -/
def Value.table? : Value → Option Table
  | .table entries => some entries
  | _ => none

/-! ### Entries -/

namespace Table

/-- The value of a key: its first entry. -/
def get? : Table → String → Option Value
  | [], _ => none
  | (k, v) :: rest, key => if k = key then some v else get? rest key

/-- The keys, in order. -/
def keys (t : Table) : List String := t.map (·.1)

/-- The value of a key set anew: in place if the key is there, else as the last entry. -/
def put : Table → String → Value → Table
  | [], key, value => [(key, value)]
  | (k, v) :: rest, key, value =>
      if k = key then (k, value) :: rest else (k, v) :: put rest key value

theorem get?_put (t : Table) (key other : String) (value : Value) :
    get? (put t key value) other = if key = other then some value else get? t other := by
  induction t with
  | nil => simp [put, get?]
  | cons e rest ih =>
    rcases e with ⟨k, v⟩
    by_cases hk : k = key
    · subst hk
      by_cases ho : k = other <;> simp [put, get?, ho]
    · by_cases ho : k = other
      · subst ho
        have hk' : ¬ key = k := fun h => hk h.symm
        simp [put, get?, hk, hk']
      · simp [put, get?, hk, ho, ih]

theorem get?_eq_none_iff {t : Table} {key : String} : get? t key = none ↔ key ∉ keys t := by
  induction t with
  | nil => simp [get?, keys]
  | cons e rest ih =>
    rcases e with ⟨k, v⟩
    by_cases hk : k = key
    · simp [get?, keys, hk]
    · have hk' : ¬ key = k := fun h => hk h.symm
      simp only [get?, hk, if_false, ih]
      simp [keys, hk']

end Table

end LayeredSettings
