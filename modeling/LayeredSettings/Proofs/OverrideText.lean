/-
LayeredSettings/Proofs/OverrideText.lean

The text of an override and the value that it stands for.

A text that starts with a bracket or a brace and holds no line break is read as
the value of one entry of a document.  What is behind that value is an end of the
text, so there is no second line for another statement: the document is this one
entry or it is malformed (`Toml.parseChars_assigned_iff`).

Main results: `overrideValue_cases`, the value is the text itself, or an array
where the text starts with a bracket, or a table where it starts with a brace; and
`overrideValue_encloses`, which says when it is which, and that the text can bind
no other key.
-/
import LayeredSettings.Override
import LayeredSettings.Proofs.Remainder

namespace LayeredSettings

namespace Toml

variable {s rest behind : List Char} {v : Value}

/-- Without carriage returns there is nothing to drop. -/
theorem unifyNewlines_of_not_mem (h : '\r' ∉ s) : unifyNewlines s = s := by
  fun_induction unifyNewlines s with
  | case1 => rfl
  | case2 rest ih => simp at h
  | case3 c rest hc ih => rw [ih fun hmem => h (List.mem_cons_of_mem c hmem)]

/-! ### Arrays and inline tables -/

/-- What starts with a bracket is an array. -/
theorem array_of_value {bound : Nat} (h : value bound ('[' :: s) = .ok (v, rest)) :
    ∃ vs, v = .array vs := by
  rcases bound with - | bound
  · cases h
  · simp only [value, show ¬('[' = '"' ∨ '[' = '\'') by decide, if_false] at h
    simp only [List.isPrefixOf, show ('t' == '[') = false by decide,
      show ('f' == '[') = false by decide, Bool.false_and, Bool.false_eq_true, if_false,
      if_true] at h
    split at h
    · cases h
    · cases h
      exact ⟨[], rfl⟩
    · rename_i inner hopen hfiller
      -- whatever the items are, they end up in an array
      rcases e : items bound inner with e' | ⟨vs, behind⟩
      · rw [e] at h
        cases h
      · rw [e] at h
        cases h
        exact ⟨vs, rfl⟩

/-- What starts with a brace is a table. -/
theorem table_of_value {bound : Nat} (h : value bound ('\x7b' :: s) = .ok (v, rest)) :
    ∃ t, v = .table t := by
  rcases bound with - | bound
  · cases h
  · simp only [value, show ¬('\x7b' = '"' ∨ '\x7b' = '\'') by decide, if_false] at h
    simp only [List.isPrefixOf, show ('t' == '\x7b') = false by decide,
      show ('f' == '\x7b') = false by decide, show ¬('\x7b' = '[') by decide, Bool.false_and,
      Bool.false_eq_true, if_false, if_true] at h
    split at h
    · cases h
      exact ⟨[], rfl⟩
    · -- whatever the entries are, they end up in a table
      rcases e : entries bound [] Marks.empty (skipBlanks s) with e' | ⟨t, behind⟩
      · rw [e] at h
        cases h
      · rw [e] at h
        cases h
        exact ⟨t, rfl⟩

/-! ### One entry -/

/-- A text of one line as the value of a key. -/
def assigned (raw : List Char) : List Char := "value = ".toList ++ raw

theorem skipBlanks_of_not_blank {c : Char} (h : isBlank c = false) :
    skipBlanks (c :: s) = c :: s := by
  simp [skipBlanks, h]

theorem assigned_eq_cons (raw : List Char) :
    assigned raw = 'v' :: ("alue = ".toList ++ raw) := rfl

theorem key_assigned (raw : List Char) :
    key (assigned raw) = .ok (["value"], '=' :: ' ' :: raw) := by
  have hpart : keyPart (assigned raw) = .ok ("value", ' ' :: '=' :: ' ' :: raw) := rfl
  have hblanks : skipBlanks (' ' :: '=' :: ' ' :: raw) = '=' :: ' ' :: raw := rfl
  rw [key, keyParts, hpart]
  simp only [hblanks]
  rfl

theorem keyAndEquals_assigned {c : Char} (h : isBlank c = false) :
    keyAndEquals (assigned (c :: s)) = .ok (["value"], c :: s) := by
  have hblanks : skipBlanks (' ' :: c :: s) = skipBlanks (c :: s) := rfl
  simp only [keyAndEquals, key_assigned, hblanks, skipBlanks_of_not_blank h]

/-- The entry of a new document. -/
theorem addEntry_empty (key : String) (v : Value) :
    ∃ d, Draft.empty.addEntry [key] v = .ok d ∧ d.tree = [(key, v)] := by
  exact ⟨_, rfl, rfl⟩

theorem statement_of_isKeyStart {c : Char} {d : Draft} (h : isKeyStart c = true) :
    statement d (c :: s) = entryStatement d (c :: s) := by
  -- a key does not start with a bracket, so the line is no header
  have hbracket : c ≠ '[' := by
    rintro rfl
    cases h
  simp only [statement]
  split
  · exact absurd (List.cons.inj ‹_›).1 hbracket
  · exact absurd (List.cons.inj ‹_›).1 hbracket
  · rename_i heq
    obtain ⟨rfl, rfl⟩ := List.cons.inj heq
    exact if_pos h
  · cases ‹_›

/-- The first statement binds the key to the value that the text starts with. -/
theorem statement_assigned_iff {c : Char} {d : Draft} (h : isBlank c = false) :
    statement Draft.empty (assigned (c :: s)) = .ok (d, rest) ↔
      ∃ v, valueOf (c :: s) = .ok (v, rest) ∧ Draft.empty.addEntry ["value"] v = .ok d := by
  have hstatement : statement Draft.empty (assigned (c :: s)) =
      entryStatement Draft.empty (assigned (c :: s)) := by
    rw [assigned_eq_cons]
    exact statement_of_isKeyStart (by decide)
  rw [hstatement, entryStatement, keyAndEquals_assigned h]
  rcases e : valueOf (c :: s) with e' | ⟨v, behind⟩
  · simp [e]
  · -- an empty draft takes any entry, so the statement can only fail by its value
    obtain ⟨d', hadd, -⟩ := addEntry_empty "value" v
    simp only [e, hadd, Except.ok.injEq, Prod.mk.injEq]
    constructor
    · rintro ⟨rfl, rfl⟩
      exact ⟨v, ⟨rfl, rfl⟩, hadd⟩
    · rintro ⟨w, ⟨rfl, rfl⟩, hw⟩
      exact ⟨Except.ok.inj (hadd.symm.trans hw), rfl⟩

/-- A text writes a value: the value is read at its start, and only blanks and a comment are
behind it. -/
def Writes (s : List Char) (v : Value) : Prop :=
  ∃ rest, valueOf s = .ok (v, rest) ∧ skipComment (skipBlanks rest) = .ok []

/-- A text of one line as the value of a key makes a document of one entry if it writes a value,
and no document otherwise. -/
theorem parseChars_assigned_iff {c : Char} {t : Table} (h : isBlank c = false)
    (hnewline : '\n' ∉ c :: s) (hreturn : '\r' ∉ c :: s) :
    parseChars (assigned (c :: s)) = .ok t ↔ ∃ v, Writes (c :: s) v ∧ t = [("value", v)] := by
  have hunified : unifyNewlines (assigned (c :: s)) = assigned (c :: s) := by
    refine unifyNewlines_of_not_mem fun hmem => hreturn ?_
    exact (List.mem_append.1 hmem).resolve_left (by decide)
  have hblanks : skipBlanks (assigned (c :: s)) = assigned (c :: s) := by
    rw [assigned_eq_cons]
    exact skipBlanks_of_not_blank (by decide)
  have hstatements : parseChars (assigned (c :: s)) = .ok t ↔
      statements ((assigned (c :: s)).length + 1) Draft.empty (assigned (c :: s)) = .ok t := by
    rw [parseChars, hunified]
    rcases statements ((assigned (c :: s)).length + 1) Draft.empty (assigned (c :: s)) with e | t'
    · simp [Except.mapError]
    · simp [Except.mapError]
  rw [hstatements, statements, hblanks]
  simp only [assigned_eq_cons, show ¬('v' = '\n') by decide, if_false]
  rw [← assigned_eq_cons]
  constructor
  · intro e
    split at e
    · cases e
    · rename_i d rest hd
      obtain ⟨v, hv, hadd⟩ := (statement_assigned_iff h).1 hd
      obtain ⟨d', hadd', htree⟩ := addEntry_empty "value" v
      obtain rfl := Except.ok.inj (hadd.symm.trans hadd')
      have hrest : Remains rest (c :: s) := leaves_valueOf _ _ _ hv
      split at e
      · cases e
      · rename_i hcomment
        cases e
        exact ⟨v, ⟨rest, hv, hcomment⟩, htree⟩
      · -- what is behind the value has no newline
        rename_i c' behind hcomment
        have hend := (remains_of_skipComment hcomment).trans ((remains_skipBlanks rest).trans hrest)
        split at e
        · rename_i hc'
          rw [hc'] at hend
          exact absurd (hend.suffix.subset List.mem_cons_self) hnewline
        · cases e
  · rintro ⟨v, ⟨rest, hv, hcomment⟩, rfl⟩
    obtain ⟨d, hadd, htree⟩ := addEntry_empty "value" v
    rw [(statement_assigned_iff h).2 ⟨v, hv, hadd⟩]
    simp only [hcomment, htree]

end Toml

/-! ### Values of overrides -/

/-- A text that looks structured starts with a bracket or a brace and has no line break. -/
theorem looksStructured_iff {raw : List Char} :
    looksStructured raw = true ↔
      (∃ c rest, raw = c :: rest ∧ (c = '[' ∨ c = '\x7b')) ∧ '\n' ∉ raw ∧ '\r' ∉ raw := by
  rcases raw with - | ⟨c, rest⟩
  · simp [looksStructured]
  · simp [looksStructured, and_assoc]

/-- What looks structured makes a document as the value of an entry if it writes a value. -/
theorem parseChars_iff_writes {raw : String} (h : looksStructured raw.toList = true) {t : Table} :
    Toml.parseChars (Toml.assigned raw.toList) = .ok t ↔
      ∃ v, Toml.Writes raw.toList v ∧ t = [("value", v)] := by
  obtain ⟨⟨c, s, hraw, hc⟩, hnewline, hreturn⟩ := looksStructured_iff.1 h
  have hblank : Toml.isBlank c = false := by
    rcases hc with rfl | rfl <;> rfl
  rw [hraw] at hnewline hreturn ⊢
  exact Toml.parseChars_assigned_iff hblank hnewline hreturn

/-- What looks structured writes an array behind a bracket and a table behind a brace. -/
theorem kind_of_writes {raw : String} (h : looksStructured raw.toList = true) {v : Value}
    (hv : Toml.Writes raw.toList v) :
    (raw.toList.head? = some '[' ∧ ∃ vs, v = .array vs) ∨
      (raw.toList.head? = some '\x7b' ∧ ∃ t, v = .table t) := by
  obtain ⟨rest, hv, -⟩ := hv
  obtain ⟨⟨c, s, hraw, hc⟩, -, -⟩ := looksStructured_iff.1 h
  rw [hraw] at hv ⊢
  rcases hc with rfl | rfl
  · exact .inl ⟨rfl, Toml.array_of_value hv⟩
  · exact .inr ⟨rfl, Toml.table_of_value hv⟩

/-- The value of an override is its text, or an array or a table that the text writes on one line,
as the value of the only entry of a document. -/
theorem overrideValue_cases {raw : String} {w : Value} (h : overrideValue raw = .ok w) :
    w = .text raw ∨
    (looksStructured raw.toList = true ∧
      Toml.parseChars (Toml.assigned raw.toList) = .ok [("value", w)] ∧
      ((raw.toList.head? = some '[' ∧ ∃ vs, w = .array vs) ∨
        (raw.toList.head? = some '\x7b' ∧ ∃ t, w = .table t))) := by
  rw [overrideValue] at h
  split at h
  · rename_i hlooks
    split at h
    · -- the document is one entry, and its value an array or a table
      rename_i t ht
      obtain ⟨v, hv, rfl⟩ := (parseChars_iff_writes hlooks).1 ht
      obtain rfl : v = w := by simpa [Table.get?] using h
      exact .inr ⟨hlooks, ht, kind_of_writes hlooks hv⟩
    · exact .inl (Except.ok.inj h).symm
    · cases h
  · exact .inl (Except.ok.inj h).symm

/-- A text on one line that writes an array or a table stands for it. -/
theorem overrideValue_of_writes {raw : String} {v : Value}
    (hlooks : looksStructured raw.toList = true) (hv : Toml.Writes raw.toList v) :
    overrideValue raw = .ok v := by
  have hparse := (parseChars_iff_writes hlooks).2 ⟨v, hv, rfl⟩
  rw [overrideValue, if_pos hlooks]
  split
  · rename_i t ht
    obtain rfl := Except.ok.inj (ht.symm.trans hparse)
    simp [Table.get?]
  · rename_i f p hf
    cases hf.symm.trans hparse
  · rename_i digits hstop
    cases hstop.symm.trans hparse

/-- **An override brings nothing into a document but its value.**  A text that does not write an
array or an inline table on one line stands for itself, character for character.  One that does is
taken in whole by the value, up to blanks and a comment, so the document that it is the entry of
has this entry and no other. -/
theorem overrideValue_encloses {raw : String} {w : Value} (h : overrideValue raw = .ok w) :
    ((w = .text raw ∧ (looksStructured raw.toList = true → ∀ v, ¬ Toml.Writes raw.toList v)) ∨
      ('\n' ∉ raw.toList ∧ '\r' ∉ raw.toList ∧
        ((raw.toList.head? = some '[' ∧ ∃ vs, w = .array vs) ∨
          (raw.toList.head? = some '\x7b' ∧ ∃ t, w = .table t)) ∧
        Toml.Writes raw.toList w ∧ Toml.parse ("value = " ++ raw) = .ok [("value", w)])) ∧
      (w.isContainer = false → w = .text raw) := by
  rcases overrideValue_cases h with rfl | ⟨hlooks, hparse, hkind⟩
  · refine ⟨.inl ⟨rfl, ?_⟩, fun _ => rfl⟩
    intro hlooks v hv
    -- the text would stand for what it writes, which is no text
    obtain rfl := Except.ok.inj (h.symm.trans (overrideValue_of_writes hlooks hv))
    rcases kind_of_writes hlooks hv with ⟨-, vs, hvs⟩ | ⟨-, t, ht⟩
    · cases hvs
    · cases ht
  · obtain ⟨-, hnewline, hreturn⟩ := looksStructured_iff.1 hlooks
    obtain ⟨v, hwrites, heq⟩ := (parseChars_iff_writes hlooks).1 hparse
    obtain rfl : w = v := by simpa using heq
    refine ⟨.inr ⟨hnewline, hreturn, hkind, hwrites, ?_⟩, ?_⟩
    · rw [Toml.parse, String.toList_append]
      exact hparse
    · intro hcontainer
      rcases hkind with ⟨-, vs, rfl⟩ | ⟨-, t, rfl⟩
      · cases hcontainer
      · cases hcontainer

/-- Quotes, a brace in a string, the key itself and an entry in a comment stay inside the value; an
address that only starts like an array is kept as it is. -/
theorem overrideValue_encloses_samples :
    (overrideValue "\x7b a.b = '\x7d', value = [ 1 ] \x7d # other = 2" =
        .ok (.table [("a", .table [("b", .text "\x7d")]), ("value", .array [.integer 1])]) ∧
      Toml.parse ("value = " ++ "\x7b a.b = '\x7d', value = [ 1 ] \x7d # other = 2") =
        .ok [("value",
          .table [("a", .table [("b", .text "\x7d")]), ("value", .array [.integer 1])])]) ∧
    (overrideValue "[::1]:3001" = .ok (.text "[::1]:3001") ∧
      looksStructured "[::1]:3001".toList = true ∧
      ∀ v, ¬ Toml.Writes "[::1]:3001".toList v) := by
  have hvalue : overrideValue "\x7b a.b = '\x7d', value = [ 1 ] \x7d # other = 2" =
      .ok (.table [("a", .table [("b", .text "\x7d")]), ("value", .array [.integer 1])]) := by
    decide +kernel
  -- an address with brackets starts like an array and is none
  have haddress : overrideValue "[::1]:3001" = .ok (.text "[::1]:3001") := by decide +kernel
  have hlooks : looksStructured "[::1]:3001".toList = true := by decide
  refine ⟨⟨hvalue, ?_⟩, haddress, hlooks, ?_⟩
  · rcases (overrideValue_encloses hvalue).1 with ⟨htext, -⟩ | ⟨-, -, -, -, hparse⟩
    · cases htext
    · exact hparse
  · rcases (overrideValue_encloses haddress).1 with ⟨-, hnot⟩ | ⟨-, -, hkind, -, -⟩
    · exact hnot hlooks
    · rcases hkind with ⟨-, vs, hvs⟩ | ⟨-, t, ht⟩
      · cases hvs
      · cases ht

end LayeredSettings
