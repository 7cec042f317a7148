/-
LayeredSettings/Text/Lowercase.lean

Lower-casing of text.  Each character goes to its lower-case partner, with two
exceptions of the Unicode rules: the capital I with a dot becomes two
characters, and a capital sigma at the end of a word becomes the final sigma.
A sigma is final when the nearest character before it that is not skipped has
case, and the nearest such one after it has none.

ASCII is decided before any table is looked at, so that on ASCII text
lower-casing is a map of single characters (`lowercaseChars_of_ascii`).
-/
import LayeredSettings.Text.Ranges
import LayeredSettings.Text.CaseTable

namespace LayeredSettings

namespace Text

/-- Whether a character is in ASCII. -/
def isAscii (c : Char) : Bool := c.toNat < 0x80

/-- The lower-case partner of an ASCII character. -/
def lowerAscii (c : Char) : Char :=
  if 0x41 ≤ c.toNat ∧ c.toNat ≤ 0x5A then Char.ofNat (c.toNat + 0x20) else c

/-- The row of a table of partners that holds a character. -/
def rowOf (table : List (Nat × Nat × Nat × Nat)) (c : Char) : Option Nat :=
  (table.find? fun (first, last, step, _) =>
    first ≤ c.toNat && c.toNat ≤ last && (c.toNat - first) % step == 0).map (·.2.2.2)

/-- The lower-case partner of a character beyond ASCII. -/
def lowerBeyondAscii (c : Char) : Char :=
  match rowOf lowerAbove c with
  | some d => Char.ofNat (c.toNat + d)
  | none =>
      match rowOf lowerBelow c with
      | some d => Char.ofNat (c.toNat - d)
      | none => c

/-- Whether the nearest character of a list that is not skipped has case. -/
def nextIsCased (s : List Char) : Bool :=
  match s.dropWhile (inRanges caseIgnorableRanges) with
  | c :: _ => inRanges casedRanges c
  | [] => false

/-- The lower-case form of a character between the reversed text before it and the text after. -/
def lowerAt (before : List Char) (c : Char) (after : List Char) : List Char :=
  if isAscii c then [lowerAscii c]
  else if c = 'İ' then ['i', '\u0307']
  else if c = 'Σ' then
    if nextIsCased before && !nextIsCased after then ['ς'] else ['σ']
  else [lowerBeyondAscii c]

/-- Lower-casing behind a text that is given in reverse. -/
def lowercaseAfter (before : List Char) : List Char → List Char
  | [] => []
  | c :: rest => lowerAt before c rest ++ lowercaseAfter (c :: before) rest

/-- The lower-case form of a list of characters. -/
def lowercaseChars (s : List Char) : List Char := lowercaseAfter [] s

/-- The lower-case form of a text. -/
def lowercase (s : String) : String := String.ofList (lowercaseChars s.toList)

theorem lowercaseAfter_of_ascii (s : List Char) (h : ∀ c ∈ s, isAscii c = true)
    (before : List Char) : lowercaseAfter before s = s.map lowerAscii := by
  induction s generalizing before with
  | nil => rfl
  | cons c rest ih =>
    have hc : isAscii c = true := h c List.mem_cons_self
    have hr := ih (fun d hd => h d (List.mem_cons_of_mem c hd)) (c :: before)
    simp [lowercaseAfter, lowerAt, hc, hr]

/-- On ASCII text lower-casing works character by character. -/
theorem lowercaseChars_of_ascii (s : List Char) (h : ∀ c ∈ s, isAscii c = true) :
    lowercaseChars s = s.map lowerAscii :=
  lowercaseAfter_of_ascii s h []

end Text

end LayeredSettings
