/-
LayeredSettings/Text/Pieces.lean

A text cut at every occurrence of a separator, from left to right, and pieces
put together again.  Joining undoes cutting (`joined_pieces`), so the pieces and
the separator between them are the text.
-/

namespace LayeredSettings

namespace Text

/-- A list of lists with one more element in front of its first list. -/
def onFirst (c : Char) : List (List Char) → List (List Char)
  | [] => [[c]]
  | piece :: rest => (c :: piece) :: rest

/-- The pieces of a text behind `skip` characters that belong to a separator. -/
def piecesAfter (separator : List Char) : Nat → List Char → List (List Char)
  | _, [] => [[]]
  | skip + 1, _ :: rest => piecesAfter separator skip rest
  | 0, c :: rest =>
      if separator.isPrefixOf (c :: rest) then
        [] :: piecesAfter separator (separator.length - 1) rest
      else onFirst c (piecesAfter separator 0 rest)

/-- The pieces of a text between the occurrences of a separator that is not empty. -/
def pieces (separator s : List Char) : List (List Char) := piecesAfter separator 0 s

/-- Pieces with a separator between them. -/
def joined (separator : List Char) : List (List Char) → List Char
  | [] => []
  | [piece] => piece
  | piece :: next :: rest => piece ++ separator ++ joined separator (next :: rest)

theorem piecesAfter_ne_nil (separator : List Char) (skip : Nat) (s : List Char) :
    piecesAfter separator skip s ≠ [] := by
  induction s generalizing skip with
  | nil => simp [piecesAfter]
  | cons c rest ih =>
    cases skip with
    | succ n => simpa [piecesAfter] using ih n
    | zero =>
      simp only [piecesAfter]
      split
      · simp
      · cases h : piecesAfter separator 0 rest <;> simp [onFirst]

theorem joined_onFirst (separator : List Char) (c : Char) {ps : List (List Char)} (h : ps ≠ []) :
    joined separator (onFirst c ps) = c :: joined separator ps := by
  rcases ps with - | ⟨p, - | ⟨q, rest⟩⟩
  · exact absurd rfl h
  · rfl
  · simp [onFirst, joined]

theorem joined_nil_cons (separator : List Char) {ps : List (List Char)} (h : ps ≠ []) :
    joined separator ([] :: ps) = separator ++ joined separator ps := by
  rcases ps with - | ⟨p, rest⟩
  · exact absurd rfl h
  · simp [joined]

theorem joined_piecesAfter (separator : List Char) (hs : separator ≠ []) (skip : Nat)
    (s : List Char) : joined separator (piecesAfter separator skip s) = s.drop skip := by
  induction s generalizing skip with
  | nil => simp [piecesAfter, joined]
  | cons c rest ih =>
    cases skip with
    | succ n => simpa [piecesAfter] using ih n
    | zero =>
      simp only [piecesAfter]
      split
      · rename_i hp
        obtain ⟨tail, ht⟩ := List.isPrefixOf_iff_prefix.1 hp
        rw [joined_nil_cons separator (piecesAfter_ne_nil _ _ _), ih]
        rcases separator with - | ⟨d, ds⟩
        · exact absurd rfl hs
        · simp only [List.cons_append, List.cons.injEq] at ht
          rcases ht with ⟨rfl, rfl⟩
          simp
      · rw [joined_onFirst separator c (piecesAfter_ne_nil _ _ _), ih]
        simp

/-- Cutting loses nothing. -/
theorem joined_pieces (separator : List Char) (hs : separator ≠ []) (s : List Char) :
    joined separator (pieces separator s) = s := by
  simpa [pieces] using joined_piecesAfter separator hs 0 s

end Text

end LayeredSettings
