/-
LayeredSettings/Proofs/DigitLimit.lean

Integers that a document may not hold.

Reading a document stops at a fault of the grammar or at a decimal integer of too
many digits.  The second is no fault, and its place is not told; what is told is how
many digits there are, and these are more than `digitLimit`.

`Limited` says so of the outcome of one reader, and the readers are gone through
in the order of their definitions: only a number stops otherwise than at a fault.
Main result: `Toml.digits_of_longInteger`.
-/
import LayeredSettings.Toml.Document

namespace LayeredSettings

namespace Toml

variable {α β : Type} {s rest : List Char} {bound digits : Nat}

/-! ### Outcomes -/

/-- Where reading stops at an integer, the integer has too many digits. -/
def Limited (r : Except Stop α) : Prop :=
  ∀ digits, r = .error (.longInteger digits) → digitLimit < digits

theorem limited_ok (x : α) : Limited (.ok x) := nofun

theorem limited_failAt (f : Fault) (s : List Char) : Limited (failAt f s : Except Stop α) := nofun

theorem Limited.error {r : Except Stop α} {e : Stop} (h : Limited r) (he : r = .error e) :
    Limited (.error e : Except Stop β) := by
  rintro digits ⟨⟩
  exact h digits he

theorem Limited.map {r : Except Stop α} (h : Limited r) (f : α → β) : Limited (r.map f) := by
  rcases r with e | x
  · exact h.error rfl
  · exact limited_ok _

/-! ### Comments and strings -/

theorem limited_skipComment (s : List Char) : Limited (skipComment s) := by
  rw [skipComment.eq_def]
  split
  · split
    · exact limited_ok _
    · split
      · exact limited_ok _
      · exact limited_failAt _ _
  · exact limited_ok _

theorem limited_skipFiller (bound : Nat) (s : List Char) : Limited (skipFiller bound s) := by
  induction bound generalizing s with
  | zero => exact limited_ok _
  | succ bound ih =>
    rw [skipFiller]
    split
    · split
      · exact ih _
      · exact (limited_skipComment _).error ‹_›
    · exact limited_ok _

theorem limited_literalBody (multiline : Bool) (s : List Char) :
    Limited (literalBody multiline s) := by
  simp only [literalBody]
  split
  · exact limited_failAt _ _
  · split
    · exact limited_ok _
    · exact limited_failAt _ _

theorem limited_hexCharacter (width : Nat) (s : List Char) : Limited (hexCharacter width s) := by
  simp only [hexCharacter]
  split
  · split
    · exact limited_ok _
    · exact limited_failAt _ _
  · exact limited_failAt _ _

theorem limited_escapeSequence (multiline : Bool) (s : List Char) :
    Limited (escapeSequence multiline s) := by
  rw [escapeSequence.eq_def]
  -- no escape reads a number that could be too long
  split
  · exact limited_failAt _ _
  · split
    · exact limited_ok _
    · split
      · split
        · exact limited_ok _
        · split
          · exact limited_ok _
          · exact limited_failAt _ _
      · split
        · exact (limited_hexCharacter _ _).map _
        · split
          · exact (limited_hexCharacter _ _).map _
          · split
            · exact limited_ok _
            · exact limited_failAt _ _

theorem limited_basicBody (multiline : Bool) (bound : Nat) (s : List Char) :
    Limited (basicBody multiline bound s) := by
  induction bound generalizing s with
  | zero => exact limited_failAt _ _
  | succ bound ih =>
    rcases s with - | ⟨c, rest⟩
    · exact limited_failAt _ _
    · rw [basicBody]
      split
      · exact limited_ok _
      · split
        · exact limited_ok _
        · split
          · split
            · -- an escape, behind which the smaller bound reads on
              exact (limited_escapeSequence _ _).error ‹_›
            · exact (ih _).map _
          · split
            · exact limited_failAt _ _
            · exact (ih _).map _

theorem limited_lineString (quote : Char) (s : List Char) : Limited (lineString quote s) := by
  simp only [lineString]
  refine Limited.map ?_ _
  split
  · exact limited_basicBody _ _ _
  · exact limited_literalBody _ _

theorem limited_multilineString (quote : Char) (s : List Char) :
    Limited (multilineString quote s) := by
  simp only [multilineString]
  refine Limited.map ?_ _
  split
  · exact limited_basicBody _ _ _
  · exact limited_literalBody _ _

theorem limited_stringValue (quote : Char) (s : List Char) : Limited (stringValue quote s) := by
  rw [stringValue]
  split
  · exact limited_multilineString _ _
  · exact limited_lineString _ _

/-! ### Keys -/

theorem limited_keyPart (s : List Char) : Limited (keyPart s) := by
  rw [keyPart.eq_def]
  split
  · exact limited_failAt _ _
  · split
    · exact limited_ok _
    · split
      · exact limited_lineString _ _
      · exact limited_failAt _ _

theorem limited_keyParts (bound : Nat) (s : List Char) : Limited (keyParts bound s) := by
  induction bound generalizing s with
  | zero => exact limited_failAt _ _
  | succ bound ih =>
    rw [keyParts]
    split
    · exact (limited_keyPart _).error ‹_›
    · split
      · exact (ih _).map _
      · exact limited_ok _

theorem limited_key (s : List Char) : Limited (key s) := limited_keyParts _ s

theorem limited_keyAndEquals (s : List Char) : Limited (keyAndEquals s) := by
  rw [keyAndEquals]
  split
  · exact (limited_key _).error ‹_›
  · exact limited_ok _
  · exact limited_failAt _ _

/-! ### Values -/

theorem limited_dateValue? {r : Reading Value} (h : dateValue? s = some r) : Limited r := by
  rw [dateValue?] at h
  split at h
  · cases h
  · split at h
    · cases h
      exact limited_failAt _ _
    · split at h
      · cases h
        exact limited_ok _
      · cases h
        exact limited_ok _

/-- A decimal integer is refused for the number of its digits, and for nothing else. -/
theorem limited_decimal? {r : Reading Value} (h : decimal? s = some r) : Limited r := by
  simp only [decimal?] at h
  split at h
  · cases h
  · split at h
    · split at h
      · -- the one place where reading stops for the digits, and there they are above the limit
        rename_i hlong
        cases h
        rintro digits ⟨⟩
        exact hlong
      · cases h
        exact limited_ok _
    · cases h
      exact limited_ok _

theorem limited_scalar (s : List Char) : Limited (scalar s) := by
  rw [scalar]
  -- the kinds of scalars in the order in which they are tried; only the decimal numbers can be too
  -- long
  split
  · exact limited_dateValue? ‹_›
  · split
    · exact limited_ok _
    · split
      · exact limited_ok _
      · split
        · exact limited_decimal? ‹_›
        · split
          · exact limited_ok _
          · exact limited_failAt _ _

theorem limited_value_succ (hitems : ∀ s, Limited (items bound s))
    (hentries : ∀ t m s, Limited (entries bound t m s)) (s : List Char) :
    Limited (value (bound + 1) s) := by
  rcases s with - | ⟨c, rest⟩
  · exact limited_failAt _ _
  · rw [value]
    split
    · -- a string
      exact (limited_stringValue _ _).map _
    · split
      · exact limited_ok _
      · split
        · exact limited_ok _
        · split
          · split
            · -- an array, and behind its bracket a blank text, the end or items
              exact (limited_skipFiller _ _).error ‹_›
            · exact limited_ok _
            · exact (hitems _).map _
          · split
            · split
              · -- an inline table, empty or with entries
                exact limited_ok _
              · exact (hentries _ _ _).map _
            · exact limited_scalar _

theorem limited_items_succ (hvalue : ∀ s, Limited (value bound s))
    (hitems : ∀ s, Limited (items bound s)) (s : List Char) : Limited (items (bound + 1) s) := by
  rw [items]
  -- the value, the filler behind it, and after a comma the filler before the next value
  split
  · exact (hvalue _).error ‹_›
  · split
    · exact (limited_skipFiller _ _).error ‹_›
    · exact limited_ok _
    · split
      · exact (limited_skipFiller _ _).error ‹_›
      · exact limited_ok _
      · exact (hitems _).map _
    · exact limited_failAt _ _

theorem limited_entries_succ (hvalue : ∀ s, Limited (value bound s))
    (hentries : ∀ t m s, Limited (entries bound t m s)) (t : Table) (m : Marks) (s : List Char) :
    Limited (entries (bound + 1) t m s) := by
  rw [entries]
  -- the key, its value, and what may follow them
  split
  · exact (limited_keyAndEquals _).error ‹_›
  · split
    · exact (hvalue _).error ‹_›
    · split
      · exact limited_failAt _ _
      · split
        · exact limited_ok _
        · exact hentries _ _ _
        · exact limited_failAt _ _

/-- By induction on the bound, for the three readers that call each other together. -/
theorem limited_value_items_entries (bound : Nat) :
    (∀ s, Limited (value bound s)) ∧ (∀ s, Limited (items bound s)) ∧
      ∀ t m s, Limited (entries bound t m s) := by
  induction bound with
  | zero =>
    exact ⟨fun _ => limited_failAt _ _, fun _ => limited_failAt _ _,
      fun _ _ _ => limited_failAt _ _⟩
  | succ bound ih =>
    obtain ⟨hvalue, hitems, hentries⟩ := ih
    exact ⟨limited_value_succ hitems hentries, limited_items_succ hvalue hitems,
      limited_entries_succ hvalue hentries⟩

theorem limited_valueOf (s : List Char) : Limited (valueOf s) :=
  (limited_value_items_entries _).1 s

/-! ### Statements -/

theorem limited_entryStatement (d : Draft) (s : List Char) : Limited (entryStatement d s) := by
  rw [entryStatement]
  split
  · exact (limited_keyAndEquals _).error ‹_›
  · split
    · exact (limited_valueOf _).error ‹_›
    · split
      · exact limited_failAt _ _
      · exact limited_ok _

theorem limited_tableStatement (d : Draft) (s : List Char) : Limited (tableStatement d s) := by
  rw [tableStatement]
  split
  · exact (limited_key _).error ‹_›
  · split
    · exact limited_failAt _ _
    · split
      · exact limited_ok _
      · exact limited_failAt _ _

theorem limited_arrayStatement (d : Draft) (s : List Char) : Limited (arrayStatement d s) := by
  rw [arrayStatement]
  split
  · exact (limited_key _).error ‹_›
  · split
    · exact limited_failAt _ _
    · split
      · exact limited_ok _
      · exact limited_failAt _ _

theorem limited_statement (d : Draft) (s : List Char) : Limited (statement d s) := by
  rw [statement.eq_def]
  split
  · exact limited_arrayStatement _ _
  · exact limited_tableStatement _ _
  · split
    · exact limited_entryStatement _ _
    · split
      · exact limited_ok _
      · exact limited_failAt _ _
  · exact limited_ok _

theorem limited_statements (bound : Nat) (d : Draft) (s : List Char) :
    Limited (statements bound d s) := by
  induction bound generalizing d s with
  | zero => exact limited_ok _
  | succ bound ih =>
    rw [statements]
    split
    · exact limited_ok _
    · split
      · exact ih _ _
      · split
        · -- a statement, perhaps a comment behind it, and then the end of the line
          exact (limited_statement _ _).error ‹_›
        · split
          · exact (limited_skipComment _).error ‹_›
          · exact limited_ok _
          · split
            · exact ih _ _
            · exact limited_failAt _ _

/-- An integer at which the reading of a document stops has more digits than are read. -/
theorem digits_of_longInteger {source : List Char}
    (h : parseChars source = .error (.longInteger digits)) : digitLimit < digits := by
  rw [parseChars] at h
  have hlimited :=
    limited_statements ((unifyNewlines source).length + 1) Draft.empty (unifyNewlines source)
  rcases e : statements ((unifyNewlines source).length + 1) Draft.empty (unifyNewlines source) with
    stop | t
  · rw [e] at h
    -- a fault is no integer of too many digits
    cases stop with
    | fault f left => cases h
    | longInteger n =>
      cases h
      exact hlimited _ e
  · rw [e] at h
    cases h

end Toml

end LayeredSettings
