/-
LayeredSettings/Proofs/Cutting.lean

Texts cut at a separator of any length.

Cutting goes from left to right, so a piece ends where the separator occurs for
the first time (`Text.pieces_append_separator`).  Pieces with separators between
them are found again if the separator occurs in none of them, nor earlier than it
was put behind one: it may begin with the last characters of a piece
(`Text.pieces_intercalate`).

The other way round no piece holds the separator (`Text.not_infix_of_mem_pieces`),
and putting the pieces together gives the text (`Text.joined_pieces`).
-/
import LayeredSettings.Text.Pieces
import Mathlib.Data.List.Infix

namespace LayeredSettings

namespace Text

variable {separator : List Char}

/-! ### Where a piece ends -/

theorem pieces_cons_of_not_begins {c : Char} {s : List Char} (h : ¬ separator <+: c :: s) :
    pieces separator (c :: s) = onFirst c (pieces separator s) := by
  rw [← List.isPrefixOf_iff_prefix] at h
  simp [pieces, piecesAfter, h]

theorem piecesAfter_append (separator a s : List Char) :
    piecesAfter separator a.length (a ++ s) = piecesAfter separator 0 s := by
  induction a with
  | nil => rfl
  | cons c a ih => exact ih

theorem pieces_separator_append (hne : separator ≠ []) (s : List Char) :
    pieces separator (separator ++ s) = [] :: pieces separator s := by
  have hprefix : separator.isPrefixOf (separator ++ s) = true :=
    List.isPrefixOf_iff_prefix.2 (List.prefix_append separator s)
  rcases separator with - | ⟨c, rest⟩
  · exact absurd rfl hne
  · rw [List.cons_append] at hprefix ⊢
    simp only [pieces, piecesAfter, hprefix, if_true, List.length_cons, Nat.add_sub_cancel,
      piecesAfter_append]

/-- A text without the separator is one piece. -/
theorem pieces_of_not_infix {a : List Char} (h : ¬ separator <:+: a) :
    pieces separator a = [a] := by
  induction a with
  | nil => rfl
  | cons c a ih =>
    rw [List.infix_cons_iff, not_or] at h
    rw [pieces_cons_of_not_begins h.1, ih h.2]
    rfl

/-- A piece ends where the separator occurs for the first time. -/
theorem pieces_append_separator (hne : separator ≠ []) {a : List Char}
    (h : ¬ separator <:+: a ++ separator.dropLast) (b : List Char) :
    pieces separator (a ++ (separator ++ b)) = a :: pieces separator b := by
  induction a with
  | nil => exact pieces_separator_append hne b
  | cons c a ih =>
    rw [List.cons_append, List.infix_cons_iff, not_or] at h
    have hfirst : ¬ separator <+: c :: (a ++ (separator ++ b)) := by
      intro hprefix
      -- what begins here ends before the last character of the separator behind the piece
      refine h.1 (List.prefix_of_prefix_length_le hprefix ?_ ?_)
      · refine List.cons_prefix_cons.2 ⟨rfl, List.prefix_append_right_inj a |>.2 ?_⟩
        exact (List.dropLast_prefix separator).trans (List.prefix_append separator b)
      · simp only [List.length_cons, List.length_append, List.length_dropLast]
        omega
    rw [List.cons_append, pieces_cons_of_not_begins hfirst, ih h.2]
    rfl

/-- Pieces with a separator between them are what the text is cut into, if the separator occurs in
no piece and begins in none but the last. -/
theorem pieces_intercalate (hne : separator ≠ []) {ps : List (List Char)} (hps : ps ≠ [])
    (hfree : ∀ p ∈ ps, ¬ separator <:+: p)
    (hends : ∀ p ∈ ps.dropLast, ¬ separator <:+: p ++ separator.dropLast) :
    pieces separator (List.intercalate separator ps) = ps := by
  induction ps with
  | nil => exact absurd rfl hps
  | cons p rest ih =>
    rcases rest with - | ⟨q, rest⟩
    · rw [List.intercalate_singleton]
      exact pieces_of_not_infix (hfree p List.mem_cons_self)
    · rw [List.intercalate_cons_cons, List.append_assoc,
        -- the first separator is found behind the first piece and not earlier, even across its end
        pieces_append_separator hne (hends p List.mem_cons_self),
        ih (List.cons_ne_nil q rest) (fun r hr => hfree r (List.mem_cons_of_mem p hr))
          fun r hr => hends r (List.mem_cons_of_mem p hr)]

/-! ### What a piece holds -/

theorem joined_eq_intercalate (separator : List Char) (ps : List (List Char)) :
    joined separator ps = List.intercalate separator ps := by
  induction ps with
  | nil => rfl
  | cons p rest ih =>
    rcases rest with - | ⟨q, rest⟩
    · rw [List.intercalate_singleton]
      rfl
    · rw [List.intercalate_cons_cons, joined, ih]

/-- The first piece is the beginning of the text. -/
theorem prefix_of_pieces_eq_cons (hne : separator ≠ []) {s p : List Char} {ps : List (List Char)}
    (h : pieces separator s = p :: ps) : p <+: s := by
  have hjoined := joined_pieces separator hne s
  rw [h, joined_eq_intercalate] at hjoined
  rcases ps with - | ⟨q, ps⟩
  · rw [List.intercalate_singleton] at hjoined
    rw [hjoined]
  · rw [List.intercalate_cons_cons, List.append_assoc] at hjoined
    exact ⟨_, hjoined⟩

theorem not_infix_of_mem_piecesAfter (hne : separator ≠ []) {skip : Nat} {s p : List Char}
    (h : p ∈ piecesAfter separator skip s) : ¬ separator <:+: p := by
  induction s generalizing skip p with
  | nil =>
    obtain rfl := List.mem_singleton.1 h
    rwa [List.infix_nil]
  | cons c s ih =>
    rcases skip with - | skip
    · simp only [piecesAfter] at h
      split at h
      · rcases List.mem_cons.1 h with rfl | h
        · rwa [List.infix_nil]
        · exact ih h
      · rename_i hprefix
        rcases hpieces : piecesAfter separator 0 s with - | ⟨q, ps⟩
        · exact absurd hpieces (piecesAfter_ne_nil separator 0 s)
        · rw [hpieces] at h
          rcases List.mem_cons.1 h with rfl | h
          · -- the separator would begin at the first character, where none was found
            rw [List.infix_cons_iff, not_or]
            refine ⟨fun hq => hprefix ?_, ih (hpieces ▸ List.mem_cons_self)⟩
            have hbegin : q <+: s := prefix_of_pieces_eq_cons hne hpieces
            exact List.isPrefixOf_iff_prefix.2
              (hq.trans (List.cons_prefix_cons.2 ⟨rfl, hbegin⟩))
          · exact ih (hpieces ▸ List.mem_cons_of_mem q h)
    · exact ih h

/-- The separator occurs in no piece. -/
theorem not_infix_of_mem_pieces (hne : separator ≠ []) {s p : List Char}
    (h : p ∈ pieces separator s) : ¬ separator <:+: p :=
  not_infix_of_mem_piecesAfter hne h

/-- Every list that is put together with others is a part of the whole. -/
theorem infix_intercalate {ps : List (List Char)} {p : List Char} (h : p ∈ ps) :
    p <:+: List.intercalate separator ps := by
  induction ps with
  | nil => cases h
  | cons q rest ih =>
    rcases rest with - | ⟨r, rest⟩
    · obtain rfl := List.mem_singleton.1 h
      rw [List.intercalate_singleton]
    · rw [List.intercalate_cons_cons, List.append_assoc]
      rcases List.mem_cons.1 h with rfl | h
      · exact (List.prefix_append p _).isInfix
      · -- the piece lies in the rest, and the rest is an end of the whole
        have hrest : List.intercalate separator (r :: rest) <:+
            q ++ (separator ++ List.intercalate separator (r :: rest)) :=
          (List.suffix_append separator _).trans (List.suffix_append q _)
        exact (ih h).trans hrest.isInfix

theorem infix_of_mem_pieces (hne : separator ≠ []) {s p : List Char}
    (h : p ∈ pieces separator s) : p <:+: s := by
  have hinfix : p <:+: joined separator (pieces separator s) := by
    rw [joined_eq_intercalate]
    exact infix_intercalate h
  rwa [joined_pieces separator hne] at hinfix

end Text

end LayeredSettings
