/-
LayeredSettings/Text/Composition.lean

The composed form of a text: texts that look the same, because one writes a
letter with its accent as one character and the other as a letter and a mark,
get the same form.

* Every character is taken apart (`parts`);
* the marks between two characters of class zero are put into the order of their
  classes (`ordered`), where marks of one class keep theirs;
* from left to right, each character joins the last one of class zero before it
  if the two make one character and no mark stands between them that would have
  to be passed (`joinMarks`).

The tables cover the characters of international domains, which are in lower
case.  An ASCII text is its own composed form.
-/
import LayeredSettings.Text.CompositionTable
import LayeredSettings.Text.Lowercase
import LayeredSettings.Text.MarkTable

namespace LayeredSettings

namespace Text

/-! ### Marks -/

/-- The class that rows `(first, last, class)` give a character. -/
def classIn? (rows : List (Nat × Nat × Nat)) (c : Char) : Option Nat :=
  rows.findSome? fun (first, last, k) =>
    if first ≤ c.toNat && c.toNat ≤ last then some k else none

/-- Whether a character is a mark that takes no room of its own. -/
def isNonspacing (c : Char) : Bool := !isAscii c && (classIn? nonspacingMarks c).isSome

/-- Whether a character is a mark. -/
def isMark (c : Char) : Bool :=
  isNonspacing c || (!isAscii c && (classIn? spacingMarks c).isSome)

/-- The canonical combining class; marks of two classes other than zero may change places. -/
def combiningClass (c : Char) : Nat :=
  if isAscii c then 0
  else ((classIn? nonspacingMarks c).or (classIn? spacingMarks c)).getD 0

/-- The class of the marks that silence the vowel of a letter. -/
def viramaClass : Nat := 9

/-! ### Pairs -/

/-- The two characters that one is made of. -/
def split? (c : Char) : Option (Char × Char) :=
  compositions.findSome? fun (first, second, whole) =>
    if whole = c.toNat then some (Char.ofNat first, Char.ofNat second) else none

/-- The syllable of Hangul that a consonant and a vowel make, or such a syllable and a final
consonant. -/
def syllable? (a b : Char) : Option Char :=
  let (m, n) := (a.toNat, b.toNat)
  if 0x1100 ≤ m ∧ m ≤ 0x1112 ∧ 0x1161 ≤ n ∧ n ≤ 0x1175 then
    some (Char.ofNat (0xAC00 + ((m - 0x1100) * 21 + (n - 0x1161)) * 28))
  else if 0xAC00 ≤ m ∧ m ≤ 0xD7A3 ∧ (m - 0xAC00) % 28 = 0 ∧ 0x11A8 ≤ n ∧ n ≤ 0x11C2 then
    some (Char.ofNat (m + (n - 0x11A7)))
  else none

/-- The character that two make. -/
def whole? (a b : Char) : Option Char :=
  (syllable? a b).or <| compositions.findSome? fun (first, second, whole) =>
    if first = a.toNat ∧ second = b.toNat then some (Char.ofNat whole) else none

/-! ### The composed form -/

/-- The characters that one is made of, taken apart up to a depth. -/
def parts : Nat → Char → List Char
  | 0, c => [c]
  | depth + 1, c =>
      match split? c with
      | none => [c]
      | some (a, b) => parts depth a ++ [b]

/-- No character of the table has parts of parts of parts. -/
def greatestDepth : Nat := 2

/-- A character in front of an ordered text; as a mark it moves behind all marks of lesser
classes. -/
def insertMark (c : Char) : List Char → List Char
  | [] => [c]
  | d :: rest =>
      if 0 < combiningClass d ∧ combiningClass d < combiningClass c then d :: insertMark c rest
      else c :: d :: rest

/-- A text with its marks in order. -/
def ordered : List Char → List Char
  | [] => []
  | c :: rest => insertMark c (ordered rest)

/-- An ordered text behind a character of class zero and the marks, the latest first, that do not
join it. -/
def joinMarks (start : Char) (marks : List Char) : List Char → List Char
  | [] => start :: marks.reverse
  | c :: rest =>
      let reaches := marks.all fun m => combiningClass m < combiningClass c
      match if reaches then whole? start c else none with
      | some whole => joinMarks whole marks rest
      | none =>
          if combiningClass c = 0 then start :: (marks.reverse ++ joinMarks c [] rest)
          else joinMarks start (c :: marks) rest

/-- An ordered text with all that can be joined joined. -/
def joinAll : List Char → List Char
  | [] => []
  | c :: rest => if combiningClass c = 0 then joinMarks c [] rest else c :: joinAll rest

/-- The composed form of a text. -/
def composedForm (s : List Char) : List Char :=
  if s.all isAscii then s else joinAll (ordered (s.flatMap (parts greatestDepth)))

end Text

end LayeredSettings
