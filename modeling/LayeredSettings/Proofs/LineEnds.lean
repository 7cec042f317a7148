/-
LayeredSettings/Proofs/LineEnds.lean

Line ends of a document that is given as a text and of one that is read from a file.

A text keeps a carriage return that no newline follows, and no document holds one:
what the statements take is legal (`Toml.leaves_statement`), so a document that is
read is legal from end to end (`Toml.isLegal_of_parseChars`).  In the text of a file
such a carriage return has become a newline before the document is read.  Without one
the two texts are the same line by line (`Toml.unifyNewlines_universalNewlines`).

Main result: `Source.load_text_and_file`.
-/
import LayeredSettings.Proofs.OverrideText
import LayeredSettings.Proofs.Stages
import LayeredSettings.Proofs.Utf8

namespace LayeredSettings

namespace Toml

variable {s rest : List Char} {c : Char}

/-! ### Statements -/

theorem leaves_entryStatement (d : Draft) (s : List Char) : Leaves (entryStatement d s) s := by
  simp only [entryStatement]
  split
  · exact leaves_error _
  · rename_i k rest hkey
    -- the key and the equals sign, and then the value
    have hrest := leaves_keyAndEquals s _ _ hkey
    split
    · exact leaves_error _
    · rename_i v behind hv
      split
      · exact leaves_failAt _ _
      · exact leaves_ok _ ((leaves_valueOf rest _ _ hv).trans hrest)

theorem leaves_tableStatement (d : Draft) (s : List Char) : Leaves (tableStatement d s) s := by
  simp only [tableStatement]
  split
  · exact leaves_error _
  · rename_i k rest hkey
    have hrest := (leaves_key _ _ _ hkey).trans (remains_skipBlanks s)
    split
    · exact leaves_failAt _ _
    · split
      · exact leaves_ok _ (hrest.tail (by decide))
      · exact leaves_failAt _ _

theorem leaves_arrayStatement (d : Draft) (s : List Char) : Leaves (arrayStatement d s) s := by
  simp only [arrayStatement]
  split
  · exact leaves_error _
  · rename_i k rest hkey
    have hrest := (leaves_key _ _ _ hkey).trans (remains_skipBlanks s)
    split
    · exact leaves_failAt _ _
    · split
      · exact leaves_ok _ ((hrest.tail (by decide)).tail (by decide))
      · exact leaves_failAt _ _

theorem leaves_statement (d : Draft) (s : List Char) : Leaves (statement d s) s := by
  simp only [statement]
  split
  · rename_i rest
    -- two brackets open an array of tables, one opens a table
    have htail : Remains rest ('[' :: '[' :: rest) :=
      (remains_cons (by decide) rest).trans (remains_cons (by decide) _)
    exact (leaves_arrayStatement d rest).mono htail
  · exact (leaves_tableStatement d _).mono (remains_cons (by decide) _)
  · split
    · exact leaves_entryStatement d _
    split
    · exact leaves_ok _ (.refl _)
    · exact leaves_failAt _ _
  · exact leaves_ok _ (.refl _)

/-! ### Documents -/

theorem Remains.forall_isLegal (h : Remains rest s) (hrest : ∀ c ∈ rest, isLegal c = true) :
    ∀ c ∈ s, isLegal c = true := by
  obtain ⟨taken, rfl, htaken⟩ := h
  intro c hc
  exact (List.mem_append.1 hc).elim (htaken c) (hrest c)

/-- If the statements of a text are read to its end, then the text is legal. -/
theorem isLegal_of_statements {bound : Nat} {d : Draft} {t : Table} (hbound : s.length < bound)
    (h : statements bound d s = .ok t) : ∀ c ∈ s, isLegal c = true := by
  induction bound generalizing d s with
  | zero => exact absurd hbound (Nat.not_lt_zero _)
  | succ bound ih =>
      have hblanks := remains_skipBlanks s
      -- behind a newline the rest is shorter, so the bound goes on to hold
      have hline : ∀ d rest, Remains ('\n' :: rest) s → statements bound d rest = .ok t →
          ∀ c ∈ s, isLegal c = true := by
        intro d rest hrest hstatements
        have hlength := hrest.suffix.length_le
        rw [List.length_cons] at hlength
        exact (hrest.tail (by decide)).forall_isLegal (ih (by omega) hstatements)
      simp only [statements] at h
      split at h
      · rename_i heq
        rw [heq] at hblanks
        exact hblanks.forall_isLegal nofun
      · rename_i c rest heq
        rw [heq] at hblanks
        split at h
        · rename_i hc
          rw [hc] at hblanks
          exact hline d rest hblanks h
        · split at h
          · cases h
          · rename_i d' behind hstatement
            have hbehind := (leaves_statement d _ _ _ hstatement).trans hblanks
            split at h
            · cases h
            · rename_i hcomment
              have hend := (remains_of_skipComment hcomment).trans (remains_skipBlanks behind)
              exact (hend.trans hbehind).forall_isLegal nofun
            · rename_i e after hcomment
              have hend := (remains_of_skipComment hcomment).trans (remains_skipBlanks behind)
              split at h
              · rename_i he
                rw [he] at hend
                exact hline d' after (hend.trans hbehind) h
              · cases h

/-- A document that is read holds no control characters but tabs and line ends. -/
theorem isLegal_of_parseChars {source : List Char} {t : Table} (h : parseChars source = .ok t) :
    ∀ c ∈ unifyNewlines source, isLegal c = true := by
  rw [parseChars] at h
  rcases e : statements ((unifyNewlines source).length + 1) Draft.empty (unifyNewlines source) with
    stop | t'
  · rw [e] at h
    cases h
  · exact isLegal_of_statements (Nat.lt_succ_self _) e

/-! ### Carriage returns -/

/-- Some carriage return stands alone: what follows it is no newline. -/
def HoldsLoneReturn (s : List Char) : Prop :=
  ∃ before after, s = before ++ '\r' :: after ∧ after.head? ≠ some '\n'

theorem holdsLoneReturn_cons :
    HoldsLoneReturn (c :: s) ↔ (c = '\r' ∧ s.head? ≠ some '\n') ∨ HoldsLoneReturn s := by
  constructor
  · rintro ⟨- | ⟨d, before⟩, after, heq, hafter⟩
    · obtain ⟨rfl, rfl⟩ := List.cons.inj heq
      exact .inl ⟨rfl, hafter⟩
    · obtain ⟨rfl, rfl⟩ := List.cons.inj heq
      exact .inr ⟨before, after, rfl, hafter⟩
  · rintro (⟨rfl, hafter⟩ | ⟨before, after, rfl, hafter⟩)
    · exact ⟨[], s, rfl, hafter⟩
    · exact ⟨c :: before, after, rfl, hafter⟩

/-- The carriage returns that are left before newlines are dropped are those that stand alone. -/
theorem mem_unifyNewlines_iff : '\r' ∈ unifyNewlines s ↔ HoldsLoneReturn s := by
  fun_induction unifyNewlines s with
  | case1 => simp [HoldsLoneReturn]
  | case2 rest ih => simp [holdsLoneReturn_cons, ih]
  | case3 c rest hc ih =>
      -- a carriage return that is kept has no newline behind it
      rw [holdsLoneReturn_cons, List.mem_cons, ih, eq_comm]
      refine or_congr_left (iff_self_and.2 fun hreturn hhead => ?_)
      obtain ⟨behind, rfl⟩ := List.head?_eq_some_iff.1 hhead
      exact hc behind hreturn rfl

theorem notMem_universalNewlines (s : List Char) : '\r' ∉ universalNewlines s := by
  fun_induction universalNewlines s with
  | case1 => exact List.not_mem_nil
  | case2 rest ih => simpa using ih
  | case3 rest hrest ih => simpa using ih
  | case4 c rest hc hc' ih =>
      rw [List.mem_cons, not_or]
      exact ⟨fun h => hc' h.symm, ih⟩

theorem universalNewlines_cons (h : c ≠ '\r') :
    universalNewlines (c :: s) = c :: universalNewlines s := by
  rw [universalNewlines]
  · exact fun _ hc _ => h hc
  · exact h

/-- Where no carriage return stands alone, the text of a file has the lines of the text itself. -/
theorem universalNewlines_eq_unifyNewlines (h : '\r' ∉ unifyNewlines s) :
    universalNewlines s = unifyNewlines s := by
  fun_induction unifyNewlines s with
  | case1 => rfl
  | case2 rest ih => rw [universalNewlines, ih (List.not_mem_of_not_mem_cons h)]
  | case3 c rest hc ih =>
      rw [universalNewlines_cons (List.ne_of_not_mem_cons h).symm,
        ih (List.not_mem_of_not_mem_cons h)]

/-- The text of a file is read as the text itself, if no carriage return stands alone. -/
theorem parseChars_universalNewlines (h : ¬ HoldsLoneReturn s) :
    parseChars (universalNewlines s) = parseChars s := by
  have hlines : unifyNewlines (universalNewlines s) = unifyNewlines s := by
    rw [unifyNewlines_of_not_mem (notMem_universalNewlines s)]
    exact universalNewlines_eq_unifyNewlines (mem_unifyNewlines_iff.not.2 h)
  simp only [parseChars, hlines]

/-- No document holds a carriage return that stands alone. -/
theorem parseChars_of_holdsLoneReturn {t : Table} (h : HoldsLoneReturn s) :
    parseChars s ≠ .ok t := by
  intro ht
  have hlegal := isLegal_of_parseChars ht '\r' (mem_unifyNewlines_iff.2 h)
  exact absurd hlegal (by decide)

end Toml

/-! ### Two ways to load a document -/

namespace Source

variable {files : Files} {path text : String}

/-- A report of a malformed document, with the fault and its place. -/
def ReportsMalformed (outcome : Except Failure Layer) (f : Toml.Fault) (p : Toml.Position) : Prop :=
  ∃ r message, outcome = .error (.reported r) ∧ r.problem = .unusable message ∧
    r.cause = some (.malformed f p)

/-- A document is read the same as a text and from a file: as the same data, with the same fault at
the same place, or with the same failure that no report covers. -/
inductive Alike : Except Failure Layer → Except Failure Layer → Prop where
  | data (t : Table) : Alike (.ok ⟨inlineLayer, t⟩) (.ok ⟨fileLayer, t⟩)
  | malformed {x y : Except Failure Layer} {f : Toml.Fault} {p : Toml.Position}
      (hx : ReportsMalformed x f p) (hy : ReportsMalformed y f p) : Alike x y
  | escaped (digits : Nat) :
      Alike (.error (.escaped (.longInteger digits))) (.error (.escaped (.longInteger digits)))

theorem outcome_load_text :
    (load files ⟨some text, path⟩).outcome =
      (parse text inlineName inlineLayer).map (Layer.mk inlineLayer) := by
  simp only [load, Run.bind_eq, Run.bind, Run.ofExcept]
  rcases parse text inlineName inlineLayer with e | t <;> rfl

theorem outcome_load_file (hpath : '\x00' ∉ path.toList)
    (hfile : files path = .ok (Text.Utf8.encode text.toList)) :
    (load files ⟨none, path⟩).outcome =
      (parse (String.ofList (universalNewlines text.toList)) path fileLayer).map
        (Layer.mk fileLayer) := by
  -- the bytes are those of the text, so decoding gives it back
  have hcause : fileCause files path = .ok (universalNewlines text.toList) := by
    simp only [fileCause, hfile, Text.Utf8.decode_encode]
  have hread : readFile files path = Run.ok (String.ofList (universalNewlines text.toList)) := by
    have hzero : path.toList.contains '\x00' = false := by simpa using hpath
    simp only [readFile, hzero, hcause, Bool.false_eq_true, if_false, Run.pure_eq]
  simp only [load, hread, Run.bind_eq, Run.bind_ok]
  simp only [Run.bind, Run.ofExcept]
  rcases parse (String.ofList (universalNewlines text.toList)) path fileLayer with e | t <;> rfl

/-- What is reported of a text depends on its source, but not what is read. -/
theorem alike_parse (text name : String) :
    Alike ((parse text inlineName inlineLayer).map (Layer.mk inlineLayer))
      ((parse text name fileLayer).map (Layer.mk fileLayer)) := by
  simp only [parse]
  rcases Toml.parse text with (⟨f, p⟩ | digits) | t
  · exact .malformed ⟨_, _, rfl, rfl, rfl⟩ ⟨_, _, rfl, rfl, rfl⟩
  · exact .escaped digits
  · exact .data t

/-- **A text and the file that holds it.**  If no carriage return of the text stands alone, the two
are read alike.  If one does, the text is never read, and the file is read like the text with a
newline in place of each carriage return. -/
theorem load_text_and_file (hpath : '\x00' ∉ path.toList)
    (hfile : files path = .ok (Text.Utf8.encode text.toList)) :
    (¬ Toml.HoldsLoneReturn text.toList →
      Alike (load files ⟨some text, path⟩).outcome (load files ⟨none, path⟩).outcome) ∧
    (Toml.HoldsLoneReturn text.toList →
      (∀ l, (load files ⟨some text, path⟩).outcome ≠ .ok l) ∧
      Alike (load files ⟨some (String.ofList (universalNewlines text.toList)), path⟩).outcome
        (load files ⟨none, path⟩).outcome) := by
  simp only [outcome_load_text, outcome_load_file hpath hfile]
  refine ⟨fun hnone => ?_, fun hlone => ⟨fun l hl => ?_, alike_parse _ path⟩⟩
  · -- without a lone carriage return both are the same text once line ends are unified
    have hsame : Toml.parse (String.ofList (universalNewlines text.toList)) = Toml.parse text := by
      rw [Toml.parse, String.toList_ofList, Toml.parseChars_universalNewlines hnone, Toml.parse]
    have hparse : ∀ name, parse (String.ofList (universalNewlines text.toList)) name fileLayer =
        parse text name fileLayer := fun name => by rw [parse, hsame, parse]
    rw [hparse]
    exact alike_parse text path
  · simp only [parse, Toml.parse] at hl
    split at hl
    · -- no document can be read with a lone carriage return in it
      rename_i t ht
      exact Toml.parseChars_of_holdsLoneReturn hlone ht
    · cases hl
    · cases hl

/-- Files of which there is one. -/
def oneFile (path text : String) : Files := fun p =>
  if p = path then .ok (Text.Utf8.encode text.toList) else .error .missing

/-- Two entries; the line of the first ends in a carriage return and a newline. -/
def pairedText : String := "a = 1\r\nb = 2\n"

/-- Two entries with a carriage return alone between them. -/
def loneText : String := "a = 1\rb = 2\n"

/-- Both cases occur, and the first holds a document. -/
theorem load_text_and_file_entries :
    (¬ Toml.HoldsLoneReturn pairedText.toList ∧
      (load (oneFile "index.toml" pairedText) ⟨some pairedText, "index.toml"⟩).outcome =
        .ok ⟨inlineLayer, [("a", .integer 1), ("b", .integer 2)]⟩ ∧
      Alike (load (oneFile "index.toml" pairedText) ⟨some pairedText, "index.toml"⟩).outcome
        (load (oneFile "index.toml" pairedText) ⟨none, "index.toml"⟩).outcome) ∧
    (Toml.HoldsLoneReturn loneText.toList ∧
      ∀ l, (load (oneFile "index.toml" loneText) ⟨some loneText, "index.toml"⟩).outcome ≠
        .ok l) := by
  have hpath : '\x00' ∉ "index.toml".toList := by decide
  have hfile : ∀ text, oneFile "index.toml" text "index.toml" =
      .ok (Text.Utf8.encode text.toList) := fun text => if_pos rfl
  have hpaired : ¬ Toml.HoldsLoneReturn pairedText.toList :=
    Toml.mem_unifyNewlines_iff.not.1 (by decide)
  have hlone : Toml.HoldsLoneReturn loneText.toList := Toml.mem_unifyNewlines_iff.1 (by decide)
  refine ⟨⟨hpaired, by decide +kernel, ?_⟩, hlone, ?_⟩
  · exact (load_text_and_file hpath (hfile pairedText)).1 hpaired
  · exact ((load_text_and_file hpath (hfile loneText)).2 hlone).1

/-- Behind a carriage return alone nothing more may stand on the line of a text; in a file the line
has ended, and the same document is read. -/
theorem load_text_and_file_apart :
    ReportsMalformed
      (load (oneFile "index.toml" loneText) ⟨some loneText, "index.toml"⟩).outcome
      .statementEnd (.at 1 6) ∧
    (load (oneFile "index.toml" loneText) ⟨none, "index.toml"⟩).outcome =
      .ok ⟨fileLayer, [("a", .integer 1), ("b", .integer 2)]⟩ := by
  constructor
  · have hstop : Toml.parse loneText = .error (.malformed .statementEnd (.at 1 6)) := by
      decide +kernel
    rw [outcome_load_text, parse, hstop]
    exact ⟨_, _, rfl, rfl, rfl⟩
  · decide +kernel

end Source

end LayeredSettings
