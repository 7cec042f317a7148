/-
LayeredSettings/Url/Route.lean

The path of a URL, from its segments.  A single point names the place itself and
two points the place above; both may be written with encoded points.  Nothing is
above the root, and a segment that looks like a drive letter is never left.

Tabs and line ends are no part of a path, with one effect that shows: behind a
drive letter at the start of a file's path they end its segment.

In a file URL a drive letter at the start is written with a colon, and a path
that starts with empty segments is written without them.
-/
import LayeredSettings.Text.Lowercase
import LayeredSettings.Text.Pieces
import LayeredSettings.Url.Percent

namespace LayeredSettings

namespace Url

open Text

/-! ### Segments -/

/-- Whether a character is left out wherever it stands in a URL. -/
def isGap (c : Char) : Bool := c == '\t' || c == '\n' || c == '\r'

/-- A text without tabs and line ends. -/
def dense (s : List Char) : List Char := s.filter fun c => !isGap c

/-- Whether a segment names the place itself. -/
def isSingleDot (segment : List Char) : Bool :=
  [".", "%2e"].contains (String.ofList (segment.map lowerAscii))

/-- Whether a segment names the place above. -/
def isDoubleDot (segment : List Char) : Bool :=
  ["..", ".%2e", "%2e.", "%2e%2e"].contains (String.ofList (segment.map lowerAscii))

/-- Whether a segment is a letter behind which a colon or a bar stands. -/
def isDriveLetter : List Char → Bool
  | [c, mark] => c.isAlpha && (mark == ':' || mark == '|')
  | _ => false

/-- Whether a segment is a drive letter up to its end or to a backslash. -/
def looksLikeDrive : List Char → Bool
  | [c, mark] => isDriveLetter [c, mark]
  | c :: mark :: next :: _ => isDriveLetter [c, mark] && next == '\\'
  | _ => false

/-- A text behind its first character that is no gap. -/
def behindFirst (s : List Char) : List Char := (s.dropWhile isGap).drop 1

/-- A drive letter with a colon in front of a gap, and the segment behind it if there is one. -/
def cutDrive? (segment : List Char) : Option (List Char × List Char) :=
  match dense segment with
  | letter :: ':' :: next :: rest =>
      if letter.isAlpha && (behindFirst (behindFirst segment)).head?.any isGap then
        some ([letter, ':'], next :: rest)
      else none
  | _ => none

/-! ### Routes -/

/-- The places that a path has led to so far, the last one first, and whether it started with a
drive letter. -/
structure Route where
  places : List (List Char)
  onDrive : Bool
  deriving DecidableEq, Inhabited

namespace Route

/-- A path that has led nowhere yet. -/
def root : Route := ⟨[], false⟩

/-- The places without the last one, unless it looks like a drive letter. -/
def leave (r : Route) : Route :=
  match r.places with
  | [] => r
  | last :: rest => if looksLikeDrive last then r else { r with places := rest }

/-- The route behind one more segment. -/
def enter (r : Route) (segment : List Char) : Route :=
  if isDoubleDot segment then r.leave
  else if isSingleDot segment then r
  else { r with places := percentEncode inPathSet segment :: r.places }

/-- The route behind one more segment of a file's path; gaps still stand in it. -/
def enterFile (r : Route) (segment : List Char) : Route :=
  match r.places with
  | _ :: _ => r.enter (dense segment)
  | [] =>
      match cutDrive? segment with
      | some (drive, rest) => { r with places := [percentEncode inPathSet rest, drive] }
      | none =>
          let plain := dense segment
          if isDriveLetter plain then ⟨[plain.take 1 ++ [':']], true⟩ else r.enter plain

/-- The route behind all segments; a path whose last segment is made of points names no file of
its own, which the empty segment says. -/
def follow (step : Route → List Char → Route) (r : Route) : List (List Char) → Route
  | [] => r
  | [last] =>
      let ended := step r last
      if isDoubleDot (dense last) || isSingleDot (dense last) then
        { ended with places := [] :: ended.places }
      else ended
  | segment :: rest => follow step (step r segment) rest

/-- The path of a route: its places with a slash in front of each. -/
def text (r : Route) : List Char := '/' :: joined ['/'] r.places.reverse

/-- The path of a route in a file URL, which does not start with empty places. -/
def fileText (r : Route) : List Char :=
  '/' :: joined ['/'] (r.places.reverse.dropWhile List.isEmpty)

end Route

/-! ### Paths -/

/-- The segments of a path; a special scheme takes a backslash for a slash. -/
def segments (special : Bool) (path : List Char) : List (List Char) :=
  pieces ['/'] (if special then path.map fun c => if c = '\\' then '/' else c else path)

/-- Whether a character is a slash of a special scheme. -/
def isSlash (c : Char) : Bool := c == '/' || c == '\\'

/-- The path that a text without gaps describes; its first slash is the root. -/
def pathText (special : Bool) (s : List Char) : List Char :=
  let inside := match s with
    | c :: rest => if c = '/' || (special && c == '\\') then rest else s
    | [] => []
  (Route.follow Route.enter .root (segments special inside)).text

/-- The route that a text in a file URL describes, behind the slash of the root. -/
def fileRoute (s : List Char) : Route := Route.follow Route.enterFile .root (segments true s)

end Url

end LayeredSettings
