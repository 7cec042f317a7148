/-
LayeredSettings/Url/Domain.lean

The ASCII form of a domain.  The characters of a domain are first brought to
their plain form (`plainForm?`), which leaves no capital letters, no variants of
letters and no characters that mean nothing, and the text is composed.  Each
label between its points then has to be proper (`isProper`); one beyond ASCII is
written in Punycode behind `xn--`, and one that already starts so has to be the
form of a proper label beyond ASCII.  A domain with text from right to left keeps
the direction in every label.
-/
import LayeredSettings.Text.Pieces
import LayeredSettings.Text.Utf8
import LayeredSettings.Url.Direction
import LayeredSettings.Url.DomainTable
import LayeredSettings.Url.Joining
import LayeredSettings.Url.Percent
import LayeredSettings.Url.Punycode

namespace LayeredSettings

namespace Url

open Text

/-! ### Characters -/

/-- The one character that a row of `shifts` gives for a character. -/
def shifted? (c : Char) : Option Char :=
  shifts.findSome? fun (first, last, step, target) =>
    if first ≤ c.toNat && c.toNat ≤ last && (c.toNat - first) % step == 0 then
      some (Char.ofNat (target + (c.toNat - first)))
    else none

/-- The word that a row of `spellings` gives for a character. -/
def spelling? (c : Char) : Option (List Char) :=
  spellings.findSome? fun (first, last, words) =>
    if first ≤ c.toNat && c.toNat ≤ last then (pieces [' '] words.toList)[c.toNat - first]?
    else none

/-- What a character of a domain stands for, unless no domain can hold it. -/
def plainForm? (c : Char) : Option (List Char) :=
  if isAscii c then some [lowerAscii c]
  else if inRanges refusedRanges c then none
  else if inRanges ignoredRanges c then some []
  else
    match shifted? c with
    | some d => some [d]
    | none => some ((spelling? c).getD [c])

/-- The composed plain form of a text, unless no domain can hold one of its characters. -/
def plainText? (s : List Char) : Option (List Char) :=
  (s.mapM plainForm?).map fun forms => composedForm forms.flatten

/-- ASCII characters that a domain cannot hold. -/
def isForbidden (c : Char) : Bool :=
  c.toNat ≤ 0x20 || c.toNat = 0x7F ||
    ['%', '#', '/', ':', '<', '>', '?', '@', '[', '\\', ']', '^', '|'].contains c

/-! ### Labels -/

/-- A label of a domain: the characters it means and how it is written in ASCII. -/
structure Label where
  characters : List Char
  written : List Char
  deriving DecidableEq, Inhabited

/-- The greatest length of a label beyond ASCII. -/
def greatestLength : Nat := 1000

/-- The greatest length of the Punycode in a label. -/
def greatestCodeLength : Nat := 2000

/-- Whether a composed plain text beyond ASCII can be a label. -/
def isProper (label : List Char) : Bool :=
  !(label.head?.any isMark) && keepsJoiners label && label.length ≤ greatestLength

/-- What a label in Punycode starts with. -/
def punycodeStart : List Char := "xn--".toList

/-- The label that a label in Punycode is the form of.  Only a text beyond ASCII that is its own
plain form is ever written so. -/
def encodedLabel? (label : List Char) : Option Label :=
  let code := label.drop punycodeStart.length
  if code.length ≤ greatestCodeLength && code.all isAscii then
    match Punycode.decode code with
    | none => none
    | some decoded =>
        if !decoded.all isAscii && plainText? decoded == some decoded && isProper decoded then
          some ⟨decoded, label⟩
        else none
  else none

/-- The label that a composed plain text describes. -/
def label? (label : List Char) : Option Label :=
  if punycodeStart.isPrefixOf label then encodedLabel? label
  else if label.all isAscii then some ⟨label, label⟩
  else if isProper label then some ⟨label, punycodeStart ++ Punycode.encode label⟩
  else none

/-! ### Domains -/

/-- The labels of a domain that may hold encoded bytes. -/
def domainLabels? (domain : List Char) : Option (List Label) :=
  match Utf8.decode (percentDecode domain) with
  | .error _ => none
  | .ok decoded =>
      match plainText? decoded with
      | none => none
      | some plain =>
          if plain.any isForbidden then none else (pieces ['.'] plain).mapM label?

/-- The ASCII form of a domain that may hold encoded bytes. -/
def asciiDomain? (domain : List Char) : Option (List Char) :=
  match domainLabels? domain with
  | none => none
  | some labels =>
      if labels.any (fun l => readsBackward l.characters) &&
          !labels.all (fun l => keepsDirection l.characters) then none
      else some (joined ['.'] (labels.map Label.written))

end Url

end LayeredSettings
