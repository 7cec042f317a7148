/-
LayeredSettings/Console/Pictures.lean

Codes of pictures in a text: the name of a picture between two colons, in any
case and without blanks, is printed as the picture.  The name may end in
`-emoji` or `-text`, which asks for the coloured or the plain form.  Codes are
read from left to right; one whose name is not known is printed as it is, and
neither of its colons starts or ends another code.
-/
import LayeredSettings.Console.PictureTable
import LayeredSettings.Text.Lowercase
import LayeredSettings.Text.Pieces

namespace LayeredSettings

namespace Console

open Text

/-! ### Names -/

/-- The word behind a name in words of which each second one is a name. -/
def wordBehind? (name : List Char) : List (List Char) → Option (List Char)
  | known :: picture :: rest => if known = name then some picture else wordBehind? name rest
  | _ => none

/-- The picture of a name. -/
def picture? (name : List Char) : Option (List Char) :=
  pictureRows.findSome? fun row => wordBehind? name (pieces [' '] row.toList)

/-- The endings of a name that ask for a form, with the selector of that form. -/
def forms : List (List Char × Char) :=
  [("-emoji".toList, '\ufe0f'), ("-text".toList, '\ufe0e')]

/-- The picture that the text between two colons asks for. -/
def pictureOf? (code : List Char) : Option (List Char) :=
  match forms.find? fun form => form.1.isSuffixOf code with
  | some (ending, selector) =>
      (picture? (lowercaseChars (code.take (code.length - ending.length)))).map (· ++ [selector])
  | none => picture? (lowercaseChars code)

/-! ### Codes -/

/-- Whether a character is blank or one of the controls that separate fields. -/
def separates (c : Char) : Bool := isBlank c || (0x1C ≤ c.toNat && c.toNat ≤ 0x1F)

/-- The text up to the next colon, if nothing in it separates. -/
def upToColon? : List Char → Option (List Char)
  | [] => none
  | c :: rest =>
      if c = ':' then some []
      else if separates c then none
      else (upToColon? rest).map (c :: ·)

/-- A text behind `skip` characters of a code, with pictures in place of their codes. -/
def withPicturesAfter : Nat → List Char → List Char
  | _, [] => []
  | skip + 1, _ :: rest => withPicturesAfter skip rest
  | 0, c :: rest =>
      match if c = ':' then upToColon? rest else none with
      | none => c :: withPicturesAfter 0 rest
      | some code =>
          (pictureOf? code).getD (':' :: code ++ [':']) ++ withPicturesAfter (code.length + 1) rest

/-- A text with pictures in place of their codes. -/
def withPictures (s : List Char) : List Char := withPicturesAfter 0 s

end Console

end LayeredSettings
