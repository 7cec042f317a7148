/-
LayeredSettings/Proofs/Remainder.lean

What a reader of documents takes and what it leaves.

Each reader takes the characters that are left and gives a result with the
characters behind it.  These are an end of what it was given, and what was taken
holds no control characters but tabs and newlines (`Toml.Remains`); the readers of
blanks, comments, strings, keys and numbers are combined of a few that only drop
characters in front.

Main result: `Toml.leaves_value_items_entries`, by induction on the bound that the
readers of values, items and entries share.
-/
import LayeredSettings.Toml.Expression
import Mathlib.Data.List.TakeWhile

namespace LayeredSettings

namespace Toml

open Text (digitRun digits? isBinaryDigit isHexDigit isOctalDigit numberOf)

variable {α β : Type} {s t rest behind : List Char} {c : Char}

/-! ### Characters -/

/-- Characters that a document may hold: no control characters but tabs and newlines. -/
def isLegal (c : Char) : Bool := !isIllegal true c

theorem isLegal_of_not_isIllegal {multiline : Bool} (h : isIllegal multiline c = false) :
    isLegal c = true := by
  cases multiline
  · simp only [isIllegal, Bool.false_and, Bool.not_false, Bool.and_true] at h
    simp [isLegal, isIllegal, h]
  · simp [isLegal, h]

theorem isLegal_of_not_isControl (h : isControl c = false) : isLegal c = true := by
  simp [isLegal, isIllegal, h]

/-- Characters from the blank on are no control characters, the one behind the tilde apart. -/
theorem isLegal_of_printable (h : 0x20 ≤ c.toNat) (h' : c.toNat < 0x7F) : isLegal c = true := by
  refine isLegal_of_not_isControl ?_
  simp only [isControl, Bool.or_eq_false_iff, Bool.and_eq_false_iff, decide_eq_false_iff_not,
    beq_eq_false_iff_ne]
  exact ⟨.inl (by omega), by omega⟩

theorem isLegal_of_isBlank (h : isBlank c = true) : isLegal c = true := by
  rcases Bool.or_eq_true_iff.1 h with h | h <;> rw [eq_of_beq h] <;> decide

theorem isLegal_of_isSpace (h : isSpace c = true) : isLegal c = true := by
  rcases Bool.or_eq_true_iff.1 h with h | h
  · exact isLegal_of_isBlank h
  · rw [eq_of_beq h]
    decide

theorem isLegal_of_isDigit (h : c.isDigit = true) : isLegal c = true := by
  have hrange : 48 ≤ c.toNat ∧ c.toNat ≤ 57 := by
    simpa [Char.isDigit, UInt32.le_iff_toNat_le] using h
  exact isLegal_of_printable (by omega) (by omega)

/-- A character between two printable ones is legal. -/
theorem isLegal_of_between {a b : Char} (h : a ≤ c) (h' : c ≤ b) (ha : 0x20 ≤ a.toNat)
    (hb : b.toNat < 0x7F) : isLegal c = true :=
  isLegal_of_printable (Nat.le_trans ha (UInt32.le_iff_toNat_le.1 h))
    (Nat.lt_of_le_of_lt (UInt32.le_iff_toNat_le.1 h') hb)

theorem isLegal_of_isHexDigit (h : isHexDigit c = true) : isLegal c = true := by
  simp only [isHexDigit, Bool.or_eq_true_iff, Bool.and_eq_true_iff, decide_eq_true_eq] at h
  rcases h with (h | ⟨h, h'⟩) | ⟨h, h'⟩
  · exact isLegal_of_isDigit h
  · exact isLegal_of_between h h' (by decide) (by decide)
  · exact isLegal_of_between h h' (by decide) (by decide)

theorem isLegal_of_isOctalDigit (h : isOctalDigit c = true) : isLegal c = true := by
  simp only [isOctalDigit, Bool.and_eq_true_iff, decide_eq_true_eq] at h
  exact isLegal_of_between h.1 h.2 (by decide) (by decide)

theorem isLegal_of_isBinaryDigit (h : isBinaryDigit c = true) : isLegal c = true := by
  rcases Bool.or_eq_true_iff.1 h with h | h <;> rw [eq_of_beq h] <;> decide

theorem isLegal_of_isAlphanum (h : c.isAlphanum = true) : isLegal c = true := by
  rcases Bool.or_eq_true_iff.1 h with h | h
  · rcases Bool.or_eq_true_iff.1 h with h | h
    · obtain ⟨hlow, hhigh⟩ := of_decide_eq_true h
      exact isLegal_of_between (a := 'A') (b := 'Z') hlow hhigh (by decide) (by decide)
    · obtain ⟨hlow, hhigh⟩ := Bool.and_eq_true_iff.1 h
      exact isLegal_of_between (a := 'a') (b := 'z') (of_decide_eq_true hlow)
        (of_decide_eq_true hhigh) (by decide) (by decide)
  · exact isLegal_of_isDigit h

theorem isLegal_of_isBareKey (h : isBareKey c = true) : isLegal c = true := by
  rcases Bool.or_eq_true_iff.1 h with h | h
  · rcases Bool.or_eq_true_iff.1 h with h | h
    · exact isLegal_of_isAlphanum h
    · rw [eq_of_beq h]
      decide
  · rw [eq_of_beq h]
    decide

/-! ### What remains -/

/-- `rest` is what remains of `s` behind legal characters. -/
def Remains (rest s : List Char) : Prop :=
  ∃ taken, taken ++ rest = s ∧ ∀ c ∈ taken, isLegal c = true

theorem Remains.refl (s : List Char) : Remains s s := ⟨[], rfl, nofun⟩

theorem Remains.trans (h : Remains rest t) (h' : Remains t s) : Remains rest s := by
  obtain ⟨front, rfl, hfront⟩ := h
  obtain ⟨taken, rfl, htaken⟩ := h'
  refine ⟨taken ++ front, List.append_assoc _ _ _, fun c hc => ?_⟩
  exact (List.mem_append.1 hc).elim (htaken c) (hfront c)

theorem Remains.suffix (h : Remains rest s) : rest <:+ s := by
  obtain ⟨taken, h, -⟩ := h
  exact ⟨taken, h⟩

theorem remains_cons (hc : isLegal c = true) (s : List Char) : Remains s (c :: s) :=
  ⟨[c], rfl, by simpa using hc⟩

theorem Remains.tail (h : Remains (c :: rest) s) (hc : isLegal c = true) : Remains rest s :=
  (remains_cons hc rest).trans h

theorem remains_drop {n : Nat} (h : ∀ c ∈ s.take n, isLegal c = true) : Remains (s.drop n) s :=
  ⟨s.take n, List.take_append_drop n s, h⟩

/-- Behind a word of legal characters. -/
theorem remains_drop_word {word : List Char} (h : word.isPrefixOf s = true)
    (hword : word.all isLegal = true) : Remains (s.drop word.length) s := by
  obtain ⟨rest, rfl⟩ := List.isPrefixOf_iff_prefix.1 h
  exact ⟨word, by rw [List.drop_left], List.all_eq_true.1 hword⟩

theorem remains_dropWhile {p : Char → Bool} (h : ∀ c, p c = true → isLegal c = true)
    (s : List Char) : Remains (s.dropWhile p) s :=
  ⟨s.takeWhile p, List.takeWhile_append_dropWhile, fun c hc => h c (List.mem_takeWhile_imp hc)⟩

/-! ### Readers -/

/-- If a reader gives a result, what it leaves remains of what it was given. -/
def Leaves (r : Reading α) (s : List Char) : Prop := ∀ x rest, r = .ok (x, rest) → Remains rest s

theorem leaves_ok (x : α) (h : Remains rest s) : Leaves (.ok (x, rest)) s := by
  rintro _ _ ⟨⟩
  exact h

theorem leaves_error (e : Stop) : Leaves (.error e : Reading α) s := nofun

theorem leaves_failAt (f : Fault) (t : List Char) : Leaves (failAt f t : Reading α) s := nofun

theorem Leaves.mono {r : Reading α} (h : Leaves r t) (hst : Remains t s) : Leaves r s :=
  fun x rest hr => (h x rest hr).trans hst

/-- What is made of the result does not matter. -/
theorem Leaves.map {r : Reading α} (h : Leaves r s) (f : α → β) :
    Leaves (r.map fun p => (f p.1, p.2)) s := by
  rcases r with e | ⟨x, rest⟩
  · exact leaves_error e
  · exact leaves_ok (f x) (h x rest rfl)

/-! ### Blanks and comments -/

theorem remains_skipBlanks (s : List Char) : Remains (skipBlanks s) s :=
  remains_dropWhile (fun _ => isLegal_of_isBlank) s

theorem remains_of_skipComment (h : skipComment s = .ok rest) : Remains rest s := by
  simp only [skipComment] at h
  split at h
  · rename_i body
    have hcomment : Remains (body.dropWhile (fun c => !isControl c)) ('#' :: body) := by
      refine (remains_dropWhile (fun c hc => ?_) body).trans (remains_cons (by decide) body)
      exact isLegal_of_not_isControl (by simpa using hc)
    -- a comment goes to the end of the text or of the line; it holds no other control
    split at h
    · rename_i heq
      cases h
      rwa [heq] at hcomment
    · rename_i c behind heq
      split at h
      · cases h
        rwa [heq] at hcomment
      · cases h
  · cases h
    exact .refl _

theorem remains_of_skipFiller {bound : Nat} (h : skipFiller bound s = .ok rest) :
    Remains rest s := by
  induction bound generalizing s with
  | zero =>
      cases h
      exact .refl _
  | succ bound ih =>
      simp only [skipFiller] at h
      have hspace : Remains (s.dropWhile isSpace) s :=
        remains_dropWhile (fun _ => isLegal_of_isSpace) s
      -- behind the blanks there is a comment, and then the smaller bound skips the rest, or nothing
      split at h
      · rename_i inner heq
        split at h
        · rename_i behind hcomment
          rw [heq] at hspace
          exact (ih h).trans ((remains_of_skipComment hcomment).trans hspace)
        · cases h
      · cases h
        exact hspace

/-! ### Strings -/

theorem remains_of_untilQuote {quote body : List Char} (h : untilQuote quote s = some (body, rest))
    (hquote : quote.all isLegal = true) (hbody : ∀ c ∈ body, isLegal c = true) :
    Remains rest s := by
  induction s generalizing body with
  | nil => cases h
  | cons c s ih =>
      simp only [untilQuote] at h
      split at h
      · rename_i hword
        cases h
        exact remains_drop_word hword hquote
      · -- the quote is not here yet, so this character belongs to the body
        obtain ⟨⟨inner, behind⟩, hinner, heq⟩ := Option.map_eq_some_iff.1 h
        cases heq
        obtain ⟨hc, hrest⟩ := List.forall_mem_cons.1 hbody
        exact (ih hinner hrest).trans (remains_cons hc s)

theorem leaves_literalBody (multiline : Bool) (s : List Char) :
    Leaves (literalBody multiline s) s := by
  unfold literalBody
  extract_lets quote
  have hquote : quote.all isLegal = true := by
    simp only [quote]
    split <;> decide
  split
  · exact leaves_failAt _ _
  · rename_i body behind heq
    split
    · rename_i hlegal
      -- the body was looked through for illegal characters and none was found
      refine leaves_ok _ (remains_of_untilQuote heq hquote fun c hc => ?_)
      exact isLegal_of_not_isIllegal (by simpa using List.find?_eq_none.1 hlegal c hc)
    · exact leaves_failAt _ _

theorem leaves_hexCharacter (width : Nat) (s : List Char) : Leaves (hexCharacter width s) s := by
  simp only [hexCharacter]
  split
  · rename_i hdigits
    split
    · refine leaves_ok _ (remains_drop fun c hc => ?_)
      exact isLegal_of_isHexDigit (List.all_eq_true.1 hdigits.2 c hc)
    · exact leaves_failAt _ _
  · exact leaves_failAt _ _

/-- Escapes are written with printable characters. -/
theorem isLegal_of_escape? {d : Char} (h : escape? c = some d) : isLegal c = true := by
  by_contra hc
  have hne : ∀ letter, isLegal letter = true → c ≠ letter := by
    rintro letter hletter rfl
    exact hc hletter
  rw [escape?, if_neg (hne 'b' (by decide)), if_neg (hne 't' (by decide)),
    if_neg (hne 'n' (by decide)), if_neg (hne 'f' (by decide)), if_neg (hne 'r' (by decide)),
    if_neg (hne '"' (by decide)), if_neg (hne '\\' (by decide))] at h
  cases h

theorem leaves_escapeSequence (multiline : Bool) (s : List Char) :
    Leaves (escapeSequence multiline s) s := by
  rcases s with - | ⟨c, s⟩
  · exact leaves_failAt _ _
  simp only [escapeSequence]
  split
  · rename_i hnewline
    have hc : isLegal c = true := by
      rw [eq_of_beq (Bool.and_eq_true_iff.1 hnewline).2]
      decide
    exact leaves_ok _
      ((remains_dropWhile (fun _ => isLegal_of_isSpace) s).trans (remains_cons hc s))
  split
  · -- blanks, then a newline
    rename_i hblank
    have hc : isLegal c = true := isLegal_of_isBlank (Bool.and_eq_true_iff.1 hblank).2
    have hblanks := (remains_skipBlanks s).trans (remains_cons hc s)
    split
    · rename_i heq
      rw [heq] at hblanks
      exact leaves_ok _ hblanks
    · rename_i d behind heq
      rw [heq] at hblanks
      split
      · rename_i hd
        rw [hd] at hblanks
        exact leaves_ok _
          ((remains_dropWhile (fun _ => isLegal_of_isSpace) behind).trans
            (hblanks.tail (by decide)))
      · exact leaves_failAt _ _
  split
  · rename_i hc
    rw [hc]
    exact ((leaves_hexCharacter 4 s).map fun d => [d]).mono (remains_cons (by decide) s)
  split
  · rename_i hc
    rw [hc]
    exact ((leaves_hexCharacter 8 s).map fun d => [d]).mono (remains_cons (by decide) s)
  split
  · rename_i heq
    exact leaves_ok _ (remains_cons (isLegal_of_escape? heq) s)
  · exact leaves_failAt _ _

theorem leaves_basicBody (multiline : Bool) (bound : Nat) (s : List Char) :
    Leaves (basicBody multiline bound s) s := by
  induction bound generalizing s with
  | zero => exact leaves_failAt _ _
  | succ bound ih =>
      rcases s with - | ⟨c, s⟩
      · exact leaves_failAt _ _
      simp only [basicBody]
      split
      · -- the end of a string on one line
        rename_i hquote
        rw [hquote.1]
        exact leaves_ok _ (remains_cons (by decide) s)
      split
      · -- the end of a string over several lines
        rename_i hquotes
        rw [hquotes.1]
        exact leaves_ok _
          ((remains_drop_word hquotes.2 (by decide)).trans (remains_cons (by decide) s))
      split
      · -- an escape, and the string goes on behind all that it took
        rename_i hescape
        rw [hescape]
        split
        · exact leaves_error _
        · rename_i meant behind heq
          have hbehind := leaves_escapeSequence multiline s _ _ heq
          exact ((ih behind).map _).mono (hbehind.trans (remains_cons (by decide) s))
      split
      · exact leaves_failAt _ _
      · rename_i hlegal
        -- any other character that may stand in a string
        have hc : isLegal c = true := isLegal_of_not_isIllegal (by simpa using hlegal)
        exact ((ih s).map _).mono (remains_cons hc s)

theorem remains_extraQuotes {quote : Char} (hquote : isLegal quote = true) (body s : List Char) :
    Remains (extraQuotes quote body s).2 s := by
  rcases s with - | ⟨c, s⟩
  · exact .refl _
  simp only [extraQuotes]
  split
  · rename_i hc
    rw [hc]
    -- up to two quotes more belong to the string that ends here
    have htail : Remains s (quote :: s) := remains_cons hquote s
    split
    · rename_i d behind
      split
      · rename_i hd
        rw [hd] at htail ⊢
        exact htail.tail hquote
      · exact htail
    · exact htail
  · exact .refl _

theorem leaves_lineString (quote : Char) (s : List Char) : Leaves (lineString quote s) s := by
  simp only [lineString]
  split
  · exact (leaves_basicBody _ _ _).map _
  · exact (leaves_literalBody _ _).map _

section

variable {quote : Char} (hquote : isLegal quote = true)

include hquote

/-- The quotes in front of the closing ones are dropped as well. -/
theorem Leaves.extraQuotes {r : Reading (List Char)} (h : Leaves r t) (hts : Remains t s) :
    Leaves (r.map fun p => (String.ofList (extraQuotes quote p.1 p.2).1,
      (extraQuotes quote p.1 p.2).2)) s := by
  rcases r with e | ⟨inner, behind⟩
  · exact leaves_error e
  · exact leaves_ok _ ((remains_extraQuotes hquote _ _).trans ((h _ _ rfl).trans hts))

theorem leaves_multilineString (s : List Char) : Leaves (multilineString quote s) s := by
  unfold multilineString
  extract_lets text body
  -- a newline right behind the opening quotes does not belong to the string
  have htext : Remains text s := by
    simp only [text]
    split
    · exact remains_cons (by decide) _
    · exact .refl _
  simp only [body]
  split
  · exact (leaves_basicBody _ _ _).extraQuotes hquote htext
  · exact (leaves_literalBody _ _).extraQuotes hquote htext

theorem leaves_stringValue (s : List Char) : Leaves (stringValue quote s) s := by
  simp only [stringValue]
  split
  · rename_i hquotes
    have hword : [quote, quote].all isLegal = true := by simp [hquote]
    exact (leaves_multilineString hquote _).mono (remains_drop_word hquotes hword)
  · exact leaves_lineString _ _

end

/-! ### Keys -/

theorem leaves_keyPart (s : List Char) : Leaves (keyPart s) s := by
  rcases s with - | ⟨c, s⟩
  · exact leaves_failAt _ _
  simp only [keyPart]
  split
  · rename_i hc
    exact leaves_ok _ ((remains_dropWhile (fun _ => isLegal_of_isBareKey) s).trans
      (remains_cons (isLegal_of_isBareKey hc) s))
  split
  · rename_i hc
    have hquote : isLegal c = true := by rcases hc with rfl | rfl <;> decide
    exact (leaves_lineString _ _).mono (remains_cons hquote s)
  · exact leaves_failAt _ _

theorem leaves_keyParts (bound : Nat) (s : List Char) : Leaves (keyParts bound s) s := by
  induction bound generalizing s with
  | zero => exact leaves_failAt _ _
  | succ bound ih =>
      simp only [keyParts]
      split
      · exact leaves_error _
      · rename_i part rest heq
        have hpart : Remains (skipBlanks rest) s :=
          (remains_skipBlanks rest).trans (leaves_keyPart s _ _ heq)
        split
        · -- a point goes before another part, which the smaller bound reads
          rename_i behind hpoint
          rw [hpoint] at hpart
          exact ((ih _).map _).mono ((remains_skipBlanks behind).trans (hpart.tail (by decide)))
        · exact leaves_ok _ hpart

theorem leaves_key (s : List Char) : Leaves (key s) s := leaves_keyParts _ s

theorem leaves_keyAndEquals (s : List Char) : Leaves (keyAndEquals s) s := by
  simp only [keyAndEquals]
  split
  · exact leaves_error _
  · rename_i k rest heq
    have hkey := leaves_key s _ _ heq
    exact leaves_ok _ ((remains_skipBlanks rest).trans (hkey.tail (by decide)))
  · exact leaves_failAt _ _

/-! ### Dates and times -/

theorem remains_of_fixedDigits {width n : Nat} (h : fixedDigits width s = some (n, rest)) :
    Remains rest s := by
  simp only [fixedDigits] at h
  split at h
  · rename_i hdigits
    cases h
    exact remains_drop fun c hc => isLegal_of_isDigit (List.all_eq_true.1 hdigits.2 c hc)
  · cases h

theorem remains_of_twoDigits {least greatest n : Nat}
    (h : twoDigits least greatest s = some (n, rest)) : Remains rest s :=
  remains_of_fixedDigits (Option.filter_eq_some_iff.1 h).1

theorem remains_of_behind? (h : behind? c s = some rest) (hc : isLegal c = true) :
    Remains rest s := by
  simp only [behind?] at h
  split at h
  · split at h
    · rename_i hd
      cases h
      exact remains_cons (hd ▸ hc) _
    · cases h
  · cases h

theorem remains_fraction (s : List Char) : Remains (fraction s).2 s := by
  simp only [fraction]
  split
  · split
    · exact .refl _
    · exact (remains_dropWhile (fun _ => isLegal_of_isDigit) _).trans (remains_cons (by decide) _)
  · exact .refl _

theorem remains_of_timeOfDay? {t : Calendar.TimeOfDay} (h : timeOfDay? s = some (t, rest)) :
    Remains rest s := by
  simp only [timeOfDay?, Option.bind_eq_bind, Option.bind_eq_some_iff, Option.pure_def,
    Option.some.injEq, Prod.mk.injEq, Prod.exists] at h
  obtain ⟨hour, s₁, h₁, s₂, h₂, minute, s₃, h₃, s₄, h₄, second, s₅, h₅, -, rfl⟩ := h
  have hhour : Remains s₂ s := (remains_of_behind? h₂ (by decide)).trans (remains_of_twoDigits h₁)
  have hminute : Remains s₄ s₂ :=
    (remains_of_behind? h₄ (by decide)).trans (remains_of_twoDigits h₃)
  have hsecond : Remains (fraction s₅).2 s₄ := (remains_fraction s₅).trans (remains_of_twoDigits h₅)
  exact hsecond.trans (hminute.trans hhour)

theorem remains_zoneOffset (s : List Char) : Remains (zoneOffset s).2 s := by
  rcases s with - | ⟨c, s⟩
  · exact .refl _
  simp only [zoneOffset]
  split
  · rename_i hzone
    have hc : isLegal c = true := by rcases hzone with rfl | rfl <;> decide
    exact remains_cons hc s
  split
  · rename_i hsign
    have hc : isLegal c = true := by rcases hsign with rfl | rfl <;> decide
    split
    · rename_i minutes behind heq
      simp only [Option.bind_eq_bind, Option.bind_eq_some_iff, Option.pure_def,
        Option.some.injEq, Prod.mk.injEq, Prod.exists] at heq
      -- hours, a colon and minutes, each read from what the one before it left
      obtain ⟨h, s₁, h₁, s₂, h₂, m, s₃, h₃, -, rfl⟩ := heq
      have hhours : Remains s₂ s :=
        (remains_of_behind? h₂ (by decide)).trans (remains_of_twoDigits h₁)
      exact (remains_of_twoDigits h₃).trans (hhours.trans (remains_cons hc s))
    · exact .refl _
  · exact .refl _

theorem remains_of_date? {d : Calendar.Date} (h : date? s = some (d, rest)) : Remains rest s := by
  simp only [date?, Option.bind_eq_bind, Option.bind_eq_some_iff, Option.pure_def,
    Option.some.injEq, Prod.mk.injEq, Prod.exists] at h
  obtain ⟨year, s₁, h₁, s₂, h₂, month, s₃, h₃, s₄, h₄, day, s₅, h₅, -, rfl⟩ := h
  have hyear : Remains s₂ s := (remains_of_behind? h₂ (by decide)).trans (remains_of_fixedDigits h₁)
  have hmonth : Remains s₄ s₂ := (remains_of_behind? h₄ (by decide)).trans (remains_of_twoDigits h₃)
  exact (remains_of_twoDigits h₅).trans (hmonth.trans hyear)

theorem remains_of_timeBehindDate? {t : Calendar.TimeOfDay}
    (h : timeBehindDate? s = some (t, rest)) : Remains rest s := by
  simp only [timeBehindDate?] at h
  split at h
  · rename_i c behind
    split at h
    · rename_i hc
      have hlegal : isLegal c = true := by rcases hc with rfl | rfl | rfl <;> decide
      exact (remains_of_timeOfDay? h).trans (remains_cons hlegal behind)
    · cases h
  · cases h

theorem leaves_dateValue? {r : Reading Value} (h : dateValue? s = some r) : Leaves r s := by
  simp only [dateValue?] at h
  split at h
  · cases h
  · rename_i date behind heq
    have hdate := remains_of_date? heq
    -- a date that is impossible, a date alone, and a date with a time behind it
    split at h
    · cases h
      exact leaves_failAt _ _
    · split at h
      · cases h
        exact leaves_ok _ hdate
      · rename_i time rest htime
        cases h
        have hmoment : Remains rest s := (remains_of_timeBehindDate? htime).trans hdate
        exact leaves_ok _ ((remains_zoneOffset rest).trans hmoment)

/-! ### Numbers -/

section

variable {isDigit : Char → Bool} (hlegal : ∀ c, isDigit c = true → isLegal c = true)

include hlegal

theorem remains_digitRun (s : List Char) : Remains (digitRun isDigit s).2 s := by
  fun_induction digitRun isDigit s with
  | case1 => exact .refl _
  | case2 c hc => exact remains_cons (hlegal c hc) []
  | case3 c hc => exact .refl _
  | case4 c d rest hc digits behind heq ih =>
      rw [heq] at ih
      exact ih.trans (remains_cons (hlegal c hc) _)
  | case5 c d rest hc hd digits behind heq ih =>
      -- an underscore, then a digit
      rw [heq] at ih
      have hc : isLegal c = true := by
        rw [hd.1]
        decide
      exact ih.trans ((remains_cons (hlegal d hd.2) _).trans (remains_cons hc _))
  | case6 c d rest hc hd => exact .refl _

theorem remains_of_digits? {ds : List Char} (h : digits? isDigit s = some (ds, rest)) :
    Remains rest s := by
  simp only [digits?] at h
  split at h
  · split at h
    · rename_i c behind hc
      have hrun := remains_digitRun hlegal (c :: behind)
      rwa [Option.some.inj h] at hrun
    · cases h
  · cases h

/-- An integer behind its two characters that say the base. -/
theorem remains_of_radixDigits {base : Nat} {c d : Char} {n : Int} {inner : List Char}
    (h : ((digits? isDigit inner).map fun p => ((numberOf base p.1 : Int), p.2)) = some (n, rest))
    (hc : isLegal c = true) (hd : isLegal d = true) : Remains rest (c :: d :: inner) := by
  obtain ⟨⟨ds, behind⟩, hdigits, heq⟩ := Option.map_eq_some_iff.1 h
  cases heq
  exact (remains_of_digits? hlegal hdigits).trans
    ((remains_cons hd inner).trans (remains_cons hc _))

end

theorem remains_of_decimalDigits {ds : List Char} (h : digits? Char.isDigit s = some (ds, rest)) :
    Remains rest s := remains_of_digits? (fun _ => isLegal_of_isDigit) h

theorem remains_of_radixInteger? {n : Int} (h : radixInteger? s = some (n, rest)) :
    Remains rest s := by
  simp only [radixInteger?] at h
  split at h
  · exact remains_of_radixDigits (fun _ => isLegal_of_isHexDigit) h (by decide) (by decide)
  · exact remains_of_radixDigits (fun _ => isLegal_of_isBinaryDigit) h (by decide) (by decide)
  · exact remains_of_radixDigits (fun _ => isLegal_of_isOctalDigit) h (by decide) (by decide)
  · cases h

theorem remains_signed (s : List Char) : Remains (signed s).2 s := by
  simp only [signed]
  split
  · exact remains_cons (by decide) _
  · exact remains_cons (by decide) _
  · exact .refl _

theorem remains_of_wholeDigits? {ds : List Char} (h : wholeDigits? s = some (ds, rest)) :
    Remains rest s := by
  simp only [wholeDigits?] at h
  split at h
  · cases h
    exact remains_cons (by decide) _
  · exact remains_of_decimalDigits h

theorem remains_fractionDigits (s : List Char) : Remains (fractionDigits s).2 s := by
  simp only [fractionDigits]
  split
  · split
    · rename_i heq
      exact (remains_of_decimalDigits heq).trans (remains_cons (by decide) _)
    · exact .refl _
  · exact .refl _

theorem remains_exponent (s : List Char) : Remains (exponent s).2 s := by
  rcases s with - | ⟨c, s⟩
  · exact .refl _
  simp only [exponent]
  split
  · rename_i hc
    have hlegal : isLegal c = true := by rcases hc with rfl | rfl <;> decide
    split
    · rename_i heq
      have hsigned : Remains (signed s).2 (c :: s) :=
        (remains_signed s).trans (remains_cons hlegal s)
      exact (remains_of_decimalDigits heq).trans hsigned
    · exact .refl _
  · exact .refl _

theorem leaves_decimal? {r : Reading Value} (h : decimal? s = some r) : Leaves r s := by
  simp only [decimal?] at h
  split at h
  · cases h
  · rename_i whole behind heq
    have hwhole : Remains behind s := (remains_of_wholeDigits? heq).trans (remains_signed s)
    have hexponent : Remains (exponent (fractionDigits behind).2).2 s :=
      (remains_exponent _).trans ((remains_fractionDigits _).trans hwhole)
    -- without a fraction and an exponent it is an integer, which may have too many digits
    split at h
    · split at h
      · cases h
        exact leaves_error _
      · cases h
        exact leaves_ok _ hexponent
    · cases h
      exact leaves_ok _ hexponent

theorem remains_of_namedFloat? {v : Value} (h : namedFloat? s = some (v, rest)) :
    Remains rest s := by
  simp only [namedFloat?] at h
  split at h
  · rename_i hword
    cases h
    exact (remains_drop_word hword (by decide)).trans (remains_signed s)
  · split at h
    · rename_i hword
      cases h
      exact (remains_drop_word hword (by decide)).trans (remains_signed s)
    · cases h

theorem leaves_scalar (s : List Char) : Leaves (scalar s) s := by
  simp only [scalar]
  -- the kinds of scalars in the order in which they are tried
  split
  · rename_i heq
    exact leaves_dateValue? heq
  · split
    · rename_i heq
      exact leaves_ok _ (remains_of_timeOfDay? heq)
    · split
      · rename_i heq
        exact leaves_ok _ (remains_of_radixInteger? heq)
      · split
        · rename_i heq
          exact leaves_decimal? heq
        · split
          · rename_i heq
            exact leaves_ok _ (remains_of_namedFloat? heq)
          · exact leaves_failAt _ _

/-! ### Values -/

section

variable {bound : Nat} (hvalue : ∀ s, Leaves (value bound s) s)
  (hitems : ∀ s, Leaves (items bound s) s) (hentries : ∀ t m s, Leaves (entries bound t m s) s)

include hitems hentries in
theorem leaves_value_succ (s : List Char) : Leaves (value (bound + 1) s) s := by
  rcases s with - | ⟨c, s⟩
  · exact leaves_failAt _ _
  simp only [value]
  split
  · rename_i hc
    have hquote : isLegal c = true := by rcases hc with rfl | rfl <;> decide
    exact ((leaves_stringValue hquote s).map Value.text).mono (remains_cons hquote s)
  split
  · rename_i hword
    exact leaves_ok _ (remains_drop_word hword (by decide))
  split
  · rename_i hword
    exact leaves_ok _ (remains_drop_word hword (by decide))
  split
  · -- an array: empty, or with items
    rename_i hc
    rw [hc]
    have htail : Remains s ('[' :: s) := remains_cons (by decide) s
    split
    · exact leaves_error _
    · rename_i behind hfiller
      have hbehind := (remains_of_skipFiller hfiller).trans htail
      exact leaves_ok _ (hbehind.tail (by decide))
    · rename_i inner hopen hfiller
      exact ((hitems inner).map Value.array).mono ((remains_of_skipFiller hfiller).trans htail)
  split
  · -- an inline table: empty, or with entries
    rename_i hc
    rw [hc]
    have hblanks := (remains_skipBlanks s).trans (remains_cons (c := '\x7b') (by decide) s)
    split
    · rename_i behind heq
      rw [heq] at hblanks
      exact leaves_ok _ (hblanks.tail (by decide))
    · exact ((hentries _ _ _).map Value.table).mono hblanks
  · exact leaves_scalar _

include hvalue hitems in
theorem leaves_items_succ (s : List Char) : Leaves (items (bound + 1) s) s := by
  simp only [items]
  split
  · exact leaves_error _
  · rename_i v rest hv
    have hrest := hvalue s _ _ hv
    split
    · exact leaves_error _
    · rename_i behind hfiller
      exact leaves_ok _ (((remains_of_skipFiller hfiller).trans hrest).tail (by decide))
    · -- behind the comma: the bracket, or more items
      rename_i behind hfiller
      have hcomma : Remains behind s :=
        ((remains_of_skipFiller hfiller).trans hrest).tail (by decide)
      split
      · exact leaves_error _
      · rename_i after hafter
        exact leaves_ok _ (((remains_of_skipFiller hafter).trans hcomma).tail (by decide))
      · rename_i next hopen hnext
        exact ((hitems next).map fun vs => v :: vs).mono
          ((remains_of_skipFiller hnext).trans hcomma)
    · exact leaves_failAt _ _

include hvalue hentries in
theorem leaves_entries_succ (t : Table) (m : Marks) (s : List Char) :
    Leaves (entries (bound + 1) t m s) s := by
  simp only [entries]
  split
  · exact leaves_error _
  · rename_i k rest hkey
    have hrest := leaves_keyAndEquals s _ _ hkey
    split
    · exact leaves_error _
    · rename_i v behind hv
      have hbehind := (hvalue rest _ _ hv).trans hrest
      -- the entry may be refused; else a brace ends the table and a comma goes before the next
      -- entry
      split
      · exact leaves_failAt _ _
      · have hblanks := (remains_skipBlanks behind).trans hbehind
        split
        · rename_i after heq
          rw [heq] at hblanks
          exact leaves_ok _ (hblanks.tail (by decide))
        · rename_i next heq
          rw [heq] at hblanks
          have hnext := (remains_skipBlanks next).trans (hblanks.tail (by decide))
          exact (hentries _ _ _).mono hnext
        · exact leaves_failAt _ _

end

/-- What the readers of values, items and entries leave remains of what they are given. -/
theorem leaves_value_items_entries (bound : Nat) :
    (∀ s, Leaves (value bound s) s) ∧ (∀ s, Leaves (items bound s) s) ∧
      ∀ t m s, Leaves (entries bound t m s) s := by
  induction bound with
  | zero =>
      exact ⟨fun s => leaves_failAt _ _, fun s => leaves_failAt _ _, fun t m s => leaves_failAt _ _⟩
  | succ bound ih =>
      obtain ⟨hvalue, hitems, hentries⟩ := ih
      exact ⟨leaves_value_succ hitems hentries, leaves_items_succ hvalue hitems,
        leaves_entries_succ hvalue hentries⟩

theorem leaves_valueOf (s : List Char) : Leaves (valueOf s) s :=
  (leaves_value_items_entries _).1 s

end Toml

end LayeredSettings
