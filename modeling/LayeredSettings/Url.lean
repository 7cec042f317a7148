/-
LayeredSettings/Url.lean

Uniform resource locators in the normal form of the living standard.

`Url.parse?` reads a text: its scheme, then an authority with user, host and
port, a path, a query and a fragment, each brought to its normal form.  Schemes
come in three kinds.  The special ones of the web always have a host, whose
default port is dropped; `file` may have one; all others take the host as it is
and may have a path without any structure.  `Url.text` writes the parts again.
-/
import LayeredSettings.Url.Address
import LayeredSettings.Url.Domain
import LayeredSettings.Url.Route

namespace LayeredSettings

/-- Who is reached and where, each part in normal form; a host may be empty. -/
structure Url.Authority where
  user : List Char
  password : List Char
  host : List Char
  port : Option Nat
  deriving DecidableEq, Inhabited

/-- A URL in normal form. -/
structure Url where
  scheme : List Char
  authority : Option Url.Authority
  path : List Char
  query : Option (List Char)
  fragment : Option (List Char)
  deriving DecidableEq, Inhabited

namespace Url

open Text

/-! ### The text of a URL -/

/-- User, host and port behind two slashes. -/
def Authority.chars (a : Authority) : List Char :=
  let password := if a.password.isEmpty then [] else ':' :: a.password
  let login := a.user ++ password
  ['/', '/'] ++ (if login.isEmpty then [] else login ++ ['@']) ++ a.host ++
    (match a.port with
     | none => []
     | some port => ':' :: Nat.toDigits 10 port)

/-- The text of a URL.  A path that starts with two slashes and has no authority in front gets a
segment that keeps it from being read as one. -/
def chars (u : Url) : List Char :=
  u.scheme ++ [':'] ++
    (match u.authority with
     | some a => a.chars
     | none => if ['/', '/'].isPrefixOf u.path then ['/', '.'] else []) ++
    u.path ++
    (match u.query with
     | none => []
     | some query => '?' :: query) ++
    (match u.fragment with
     | none => []
     | some fragment => '#' :: fragment)

/-- The text of a URL. -/
def text (u : Url) : String := String.ofList u.chars

/-! ### Schemes -/

/-- The default port of a special scheme of the web. -/
def defaultPort? (scheme : List Char) : Option Nat :=
  [("http", 80), ("https", 443), ("ws", 80), ("wss", 443), ("ftp", 21)].lookup
    (String.ofList scheme)

/-- Whether a scheme is one of the special schemes of the web. -/
def isWeb (scheme : List Char) : Bool := (defaultPort? scheme).isSome

/-- Whether a character may stand in a scheme behind its first letter. -/
def inScheme (c : Char) : Bool := c.isAlphanum || c == '+' || c == '-' || c == '.'

/-- The scheme of a text, in lower case, and what follows its colon. -/
def scheme? (s : List Char) : Option (List Char × List Char) :=
  match s with
  | [] => none
  | first :: _ =>
      if first.isAlpha then
        match s.dropWhile inScheme with
        | ':' :: rest => some ((s.takeWhile inScheme).map lowerAscii, rest)
        | _ => none
      else none

/-! ### Hosts -/

/-- The address between two brackets. -/
def bracketed? (host : List Char) : Option (List Char) :=
  if host.getLast? = some ']' then
    (version6? (host.drop 1).dropLast).map fun groups => '[' :: version6Text groups ++ [']']
  else none

/-- The normal form of a host of a special scheme. -/
def specialHost? (host : List Char) : Option (List Char) :=
  if host.head? = some '[' then bracketed? host
  else
    match asciiDomain? host with
    | none => none
    | some [] => none
    | some domain =>
        if endsInNumber domain then (version4? domain).map version4Text else some domain

/-- Whether a host of another scheme cannot hold a character. -/
def isForbiddenInHost (c : Char) : Bool :=
  ['\x00', '\t', '\n', '\r', ' ', '#', '/', ':', '<', '>', '?', '@', '[', '\\', ']', '^',
    '|'].contains c

/-- The normal form of a host of a scheme that is not special. -/
def otherHost? (host : List Char) : Option (List Char) :=
  if host.head? = some '[' then bracketed? host
  else if host.any isForbiddenInHost then none
  else some (percentEncode inControlSet host)

/-! ### Authorities -/

/-- Whether a character ends an authority. -/
def endsAuthority (special : Bool) (c : Char) : Bool :=
  c == '/' || c == '?' || c == '#' || (special && c == '\\')

/-- The text before and the text after the last `@`; without one all is after it. -/
def atLogin (area : List Char) : List Char × List Char :=
  let behind := (area.reverse.takeWhile (· != '@')).reverse
  (area.take (area.length - behind.length - 1), behind)

/-- The text before and from the first colon that is not between brackets. -/
def atPort : Bool → List Char → List Char × List Char
  | _, [] => ([], [])
  | inside, c :: rest =>
      if c = ':' ∧ inside = false then ([], c :: rest)
      else
        let (before, after) := atPort (c = '[' || (inside && c != ']')) rest
        (c :: before, after)

/-- The port behind a host and what follows it; a backslash may end it. -/
def port? : List Char → Option (Option Nat × List Char)
  | ':' :: rest =>
      let digits := rest.takeWhile Char.isDigit
      let behind := rest.dropWhile Char.isDigit
      if behind.isEmpty || behind.head? = some '\\' then
        if digits.isEmpty then some (none, behind)
        else if numberOf 10 digits ≤ 65535 then some (some (numberOf 10 digits), behind)
        else none
      else none
  | rest => some (none, rest)

/-- The authority in front of a text and what follows it. -/
def authority? (scheme s : List Char) : Option (Authority × List Char) :=
  let special := isWeb scheme
  let area := s.takeWhile fun c => !endsAuthority special c
  let beyond := s.dropWhile fun c => !endsAuthority special c
  let (login, place) := atLogin area
  let (user, secret) := (login.takeWhile (· != ':'), (login.dropWhile (· != ':')).drop 1)
  let (name, tail) := atPort false place
  let loginOnly := area.contains '@' && login.isEmpty && place.isEmpty && !beyond.isEmpty
  let nameless := name.isEmpty && (special || !user.isEmpty || !secret.isEmpty || !tail.isEmpty)
  if loginOnly || nameless then none
  else
    match if special then specialHost? name else otherHost? name, port? tail with
    | some host, some (port, behind) =>
        some (⟨percentEncode inUserSet user, percentEncode inUserSet secret, host,
          if port = defaultPort? scheme then none else port⟩, behind ++ beyond)
    | _, _ => none

/-! ### Queries and fragments -/

/-- The query and the fragment at the end of a text. -/
def ending (special : Bool) (s : List Char) : Option (List Char) × Option (List Char) :=
  let fragment := match s.dropWhile (· != '#') with
    | _ :: f => some (percentEncode inFragmentSet f)
    | [] => none
  match s with
  | '?' :: rest =>
      (some (percentEncode (inQuerySet special) (rest.takeWhile (· != '#'))), fragment)
  | _ => (none, fragment)

/-- Whether a character ends a path. -/
def endsPath (c : Char) : Bool := c == '?' || c == '#'

/-! ### Kinds of URLs -/

/-- A URL with an authority, behind its slashes. -/
def withAuthority? (scheme s : List Char) : Option Url :=
  let special := isWeb scheme
  match authority? scheme s with
  | none => none
  | some (authority, rest) =>
      let route := rest.takeWhile fun c => !endsPath c
      let path := if route.isEmpty && !special then [] else pathText special route
      let (query, fragment) := ending special (rest.dropWhile fun c => !endsPath c)
      some ⟨scheme, some authority, path, query, fragment⟩

/-- A URL without an authority whose scheme is not special. -/
def withoutAuthority (scheme s : List Char) : Url :=
  let route := s.takeWhile fun c => !endsPath c
  let path := match route with
    | '/' :: _ => pathText false route
    | _ => percentEncode inControlSet route
  let (query, fragment) := ending false (s.dropWhile fun c => !endsPath c)
  ⟨scheme, none, path, query, fragment⟩

/-- A file URL on a host, which may be empty, with the text behind the slash of its root.  A path
that starts with a drive letter is on no host. -/
def onHost (host s : List Char) : Url :=
  let route := fileRoute (s.takeWhile fun c => !endsPath c)
  let (query, fragment) := ending true (dense (s.dropWhile fun c => !endsPath c))
  ⟨"file".toList, some ⟨[], [], if route.onDrive then [] else host, none⟩, route.fileText,
    query, fragment⟩

/-- A file URL behind its two slashes.  A drive letter is no host but starts the path.  Without a
host, or with `localhost`, the slash behind it starts a segment of its own. -/
def behindSlashes? (s : List Char) : Option Url :=
  let name := dense (s.takeWhile fun c => !endsAuthority true c)
  let beyond := s.dropWhile fun c => !endsAuthority true c
  if isDriveLetter name then some (onHost [] s)
  else if name.isEmpty then some (onHost [] beyond)
  else
    match specialHost? name with
    | none => none
    | some host =>
        if host = "localhost".toList then some (onHost [] beyond)
        else if beyond.head?.any isSlash then some (onHost host (beyond.drop 1))
        else some (onHost host beyond)

/-- A file URL behind its scheme; tabs and line ends still stand in it. -/
def file? (s : List Char) : Option Url :=
  if (s.dropWhile isGap).head?.any isSlash then
    let behind := behindFirst s
    if (behind.dropWhile isGap).head?.any isSlash then behindSlashes? (behindFirst behind)
    else some (onHost [] behind)
  else some (onHost [] s)

/-! ### Reading -/

/-- The text without controls and spaces at its ends. -/
def trimmed (s : List Char) : List Char :=
  let atEnds : Char → Bool := fun c => c.toNat ≤ 0x20
  ((s.dropWhile atEnds).reverse.dropWhile atEnds).reverse

/-- The URL that a text writes. -/
def parse? (s : String) : Option Url :=
  let whole := trimmed s.toList
  match scheme? (dense whole) with
  | none => none
  | some (scheme, rest) =>
      if scheme = "file".toList then file? ((whole.dropWhile (· != ':')).drop 1)
      else if isWeb scheme then withAuthority? scheme (rest.dropWhile isSlash)
      else
        match rest with
        | '/' :: '/' :: s => withAuthority? scheme s
        | _ => some (withoutAuthority scheme rest)

end Url

end LayeredSettings
