/-
LayeredSettings/Toml/Text.lean

Blanks, comments, strings and keys of a document.  Every reader takes the
characters that are left and gives a result with the characters behind it.

A reader that loops carries a bound on its rounds; each round takes a character,
so a bound of the number of characters left is never reached.
-/
import LayeredSettings.Toml.Fault
import LayeredSettings.Text.Digits

namespace LayeredSettings

namespace Toml

open Text (isHexDigit numberOf)

/-! ### Characters -/

/-- Blanks inside a line. -/
def isBlank (c : Char) : Bool := c == ' ' || c == '\t'

/-- Blanks and newlines. -/
def isSpace (c : Char) : Bool := isBlank c || c == '\n'

/-- Control characters other than the tab. -/
def isControl (c : Char) : Bool := (c.toNat < 0x20 && c != '\t') || c.toNat == 0x7F

/-- Control characters that may not stand in a string; a string of several lines may hold
newlines. -/
def isIllegal (multiline : Bool) (c : Char) : Bool := isControl c && !(multiline && c == '\n')

/-- The characters of a key without quotes. -/
def isBareKey (c : Char) : Bool := c.isAlphanum || c == '_' || c == '-'

/-- The characters that a key can start with. -/
def isKeyStart (c : Char) : Bool := isBareKey c || c == '"' || c == '\''

/-- Without the blanks in front. -/
def skipBlanks (s : List Char) : List Char := s.dropWhile isBlank

/-! ### Comments -/

/-- Behind a comment, if one starts here; the newline at its end is left. -/
def skipComment : List Char → Except Stop (List Char)
  | '#' :: rest =>
      match rest.dropWhile fun c => !isControl c with
      | [] => .ok []
      | c :: behind =>
          if c = '\n' then .ok (c :: behind) else failAt (.invalidCharacter c) (c :: behind)
  | s => .ok s

/-- Behind blanks, newlines and comments. -/
def skipFiller : Nat → List Char → Except Stop (List Char)
  | 0, s => .ok s
  | bound + 1, s =>
      match s.dropWhile isSpace with
      | '#' :: rest =>
          match skipComment ('#' :: rest) with
          | .ok behind => skipFiller bound behind
          | .error e => .error e
      | behind => .ok behind

/-! ### Literal strings -/

/-- The characters before the first occurrence of a quote and those behind it. -/
def untilQuote (quote : List Char) : List Char → Option (List Char × List Char)
  | [] => none
  | c :: rest =>
      if quote.isPrefixOf (c :: rest) then some ([], (c :: rest).drop quote.length)
      else (untilQuote quote rest).map fun (body, behind) => (c :: body, behind)

/-- A string without escapes, behind its opening quote. -/
def literalBody (multiline : Bool) (s : List Char) : Reading (List Char) :=
  let quote := if multiline then ['\'', '\'', '\''] else ['\'']
  match untilQuote quote s with
  | none => failAt (.missingQuote (String.ofList quote)) []
  | some (body, behind) =>
      match body.find? (isIllegal multiline) with
      | none => .ok (body, behind)
      | some c => failAt (.invalidCharacter c) (s.dropWhile fun d => !isIllegal multiline d)

/-! ### Basic strings -/

/-- The character that an escape of one letter stands for. -/
def escape? (c : Char) : Option Char :=
  if c = 'b' then some '\x08'
  else if c = 't' then some '\t'
  else if c = 'n' then some '\n'
  else if c = 'f' then some '\x0c'
  else if c = 'r' then some '\r'
  else if c = '"' then some '"'
  else if c = '\\' then some '\\'
  else none

/-- A character given by `width` hexadecimal digits. -/
def hexCharacter (width : Nat) (s : List Char) : Reading Char :=
  let digits := s.take width
  if digits.length = width ∧ digits.all isHexDigit then
    let n := numberOf 16 digits
    if n < 0xD800 ∨ (0xE000 ≤ n ∧ n ≤ 0x10FFFF) then .ok (Char.ofNat n, s.drop width)
    else failAt .notScalar (s.drop width)
  else failAt .invalidHex s

/-- What an escape stands for, behind its backslash.  In a string of several lines a backslash
before a newline joins the lines; blanks may stand between the two. -/
def escapeSequence (multiline : Bool) : List Char → Reading (List Char)
  | [] => failAt .unescaped []
  | c :: rest =>
      if multiline && c == '\n' then .ok ([], rest.dropWhile isSpace)
      else if multiline && isBlank c then
        match skipBlanks rest with
        | [] => .ok ([], [])
        | d :: behind =>
            if d = '\n' then .ok ([], behind.dropWhile isSpace)
            else failAt .unescaped (d :: behind)
      else if c = 'u' then (hexCharacter 4 rest).map fun (d, behind) => ([d], behind)
      else if c = 'U' then (hexCharacter 8 rest).map fun (d, behind) => ([d], behind)
      else
        match escape? c with
        | some d => .ok ([d], rest)
        | none => failAt .unescaped rest

/-- A string with escapes, behind its opening quote. -/
def basicBody (multiline : Bool) : Nat → List Char → Reading (List Char)
  | 0, s => failAt .openString s
  | _ + 1, [] => failAt .openString []
  | bound + 1, c :: rest =>
      if c = '"' ∧ ¬ multiline then .ok ([], rest)
      else if c = '"' ∧ ['"', '"'].isPrefixOf rest then .ok ([], rest.drop 2)
      else if c = '\\' then
        match escapeSequence multiline rest with
        | .error e => .error e
        | .ok (meant, behind) =>
            (basicBody multiline bound behind).map fun (body, end_) => (meant ++ body, end_)
      else if isIllegal multiline c then failAt (.illegalCharacter c) (c :: rest)
      else (basicBody multiline bound rest).map fun (body, end_) => (c :: body, end_)

/-! ### Strings of several lines -/

/-- Up to two more quotes that belong to the string before the three that close it. -/
def extraQuotes (quote : Char) (body : List Char) : List Char → List Char × List Char
  | c :: rest =>
      if c = quote then
        match rest with
        | d :: behind =>
            if d = quote then (body ++ [quote, quote], behind) else (body ++ [quote], rest)
        | [] => (body ++ [quote], [])
      else (body, c :: rest)
  | [] => (body, [])

/-- A string of several lines, behind its three opening quotes; a newline right behind them does
not count. -/
def multilineString (quote : Char) (s : List Char) : Reading String :=
  let text := match s with
    | '\n' :: rest => rest
    | _ => s
  let body := if quote = '"' then basicBody true (text.length + 1) text else literalBody true text
  body.map fun (inner, behind) =>
    let (full, end_) := extraQuotes quote inner behind
    (String.ofList full, end_)

/-- A string on one line, behind its opening quote. -/
def lineString (quote : Char) (s : List Char) : Reading String :=
  let body := if quote = '"' then basicBody false (s.length + 1) s else literalBody false s
  body.map fun (inner, behind) => (String.ofList inner, behind)

/-- A string of either kind, behind the first of its opening quotes. -/
def stringValue (quote : Char) (rest : List Char) : Reading String :=
  if [quote, quote].isPrefixOf rest then multilineString quote (rest.drop 2)
  else lineString quote rest

/-! ### Keys -/

/-- One part of a key. -/
def keyPart : List Char → Reading String
  | [] => failAt .keyStart []
  | c :: rest =>
      if isBareKey c then
        .ok (String.ofList (c :: rest.takeWhile isBareKey), rest.dropWhile isBareKey)
      else if c = '\'' ∨ c = '"' then lineString c rest
      else failAt .keyStart (c :: rest)

/-- The parts of a key with points between them, and the blanks behind it. -/
def keyParts : Nat → List Char → Reading Path
  | 0, s => failAt .keyStart s
  | bound + 1, s =>
      match keyPart s with
      | .error e => .error e
      | .ok (part, rest) =>
          match skipBlanks rest with
          | '.' :: behind =>
              (keyParts bound (skipBlanks behind)).map fun (parts, end_) => (part :: parts, end_)
          | behind => .ok ([part], behind)

/-- A key. -/
def key (s : List Char) : Reading Path := keyParts (s.length + 1) s

/-- A key and the equals sign behind it, with the blanks behind that. -/
def keyAndEquals (s : List Char) : Reading Path :=
  match key s with
  | .error e => .error e
  | .ok (k, '=' :: rest) => .ok (k, skipBlanks rest)
  | .ok (_, rest) => failAt .missingEquals rest

end Toml

end LayeredSettings
