/-
LayeredSettings/Files.lean

The part of a file system that a program can see: files and directories below
one working directory, and what reading a path gives.  The rest of the library
only asks for the latter (`Files`); a `FileTree` is one way to answer.

A path is cleaned before it is opened (`cleanPath`): empty and single-point
components go, two-point components stay.  Opening walks the components from
left to right and stops at the first one that cannot be taken, so of several
faults the leftmost decides (`FileTree.read`).
-/
import LayeredSettings.Path
import LayeredSettings.Text.Quoted
import LayeredSettings.Text.Utf8

namespace LayeredSettings

/-! ### Paths of files -/

/-- The components of a path that count. -/
def pathComponents (path : String) : List String :=
  ((Text.pieces ['/'] path.toList).map String.ofList).filter fun c => c != "" && c != "."

/-- The slashes in front of a path that starts at the root: two stay two, more become one. -/
def pathRoot (path : String) : String :=
  match path.toList with
  | '/' :: '/' :: '/' :: _ => "/"
  | '/' :: '/' :: _ => "//"
  | '/' :: _ => "/"
  | _ => ""

/-- A path without the components that do not count; the empty path is the working directory. -/
def cleanPath (path : String) : String :=
  let cleaned := pathRoot path ++ "/".intercalate (pathComponents path)
  if cleaned.isEmpty then "." else cleaned

/-! ### Failures -/

/-- Why a path cannot be read.  Systems know further failures (a loop of links, an error of the
device); they would be reported in the same way, with a number and a wording of their own. -/
inductive FileFault where
  | missing
  | notDirectory
  | isDirectory
  | nameTooLong
  | denied
  deriving DecidableEq, Inhabited

/-- The number of a failure. -/
def FileFault.number : FileFault → Nat
  | .missing => 2
  | .notDirectory => 20
  | .isDirectory => 21
  | .nameTooLong => 36
  | .denied => 13

/-- The wording of a failure. -/
def FileFault.message : FileFault → String
  | .missing => "No such file or directory"
  | .notDirectory => "Not a directory"
  | .isDirectory => "Is a directory"
  | .nameTooLong => "File name too long"
  | .denied => "Permission denied"

/-- The wording of a failure at a cleaned path. -/
def FileFault.report (f : FileFault) (path : String) : String :=
  "[Errno " ++ toString f.number ++ "] " ++ f.message ++ ": " ++ Text.quoted path

/-- What reading a path gives. -/
abbrev Files := String → Except FileFault (List Nat)

/-! ### The tree -/

/-- What a path leads to. -/
inductive FileEntry where
  | file (bytes : List Nat)
  | directory
  deriving DecidableEq, Inhabited

/-- Files and directories by their components below the working directory. -/
structure FileTree where
  entries : List (List String × FileEntry)
  deriving DecidableEq, Inhabited

namespace FileTree

/-- Where a walk stands: below the working directory, or a number of levels above it. -/
inductive Place where
  | inside (components : List String)
  | above (levels : Nat)

/-- What a place holds; a directory is there if it is listed or something below it is. -/
def entryAt (t : FileTree) : Place → Option FileEntry
  | .above _ => some .directory
  | .inside [] => some .directory
  | .inside components =>
      match t.entries.find? fun e => e.1 == components with
      | some e => some e.2
      | none =>
          if t.entries.any fun e => components.isPrefixOf e.1 then some .directory else none

/-- The place above a place. -/
def Place.parent : Place → Place
  | .inside [] => .above 1
  | .inside components => .inside components.dropLast
  | .above levels => .above (levels + 1)

/-- The longest name of a file, in bytes. -/
def nameLimit : Nat := 255

/-- The longest path, in bytes. -/
def pathLimit : Nat := 4095

/-- Takes the components one by one; nothing is known of what lies above the working
directory. -/
def walk (t : FileTree) : Place → List String → Except FileFault FileEntry
  | place, [] =>
      match t.entryAt place with
      | some e => .ok e
      | none => .error .missing
  | place, name :: rest =>
      match t.entryAt place with
      | none => .error .missing
      | some (.file _) => .error .notDirectory
      | some .directory =>
          if nameLimit < name.utf8ByteSize then .error .nameTooLong
          else if name = ".." then walk t place.parent rest
          else
            match place with
            | .above _ => .error .missing
            | .inside components => walk t (.inside (components ++ [name])) rest

/-- The bytes of the file that a path leads to. -/
def read (t : FileTree) (path : String) : Except FileFault (List Nat) :=
  let cleaned := cleanPath path
  let start := if (pathRoot path).isEmpty then Place.inside [] else Place.above 0
  if pathLimit < cleaned.utf8ByteSize then .error .nameTooLong
  else
    match walk t start (pathComponents path) with
    | .error f => .error f
    | .ok .directory => .error .isDirectory
    | .ok (.file bytes) => .ok bytes

end FileTree

/-! ### Texts -/

/-- Line ends in the text of a file: a carriage return, alone or before a newline, is a
newline. -/
def universalNewlines : List Char → List Char
  | [] => []
  | '\r' :: '\n' :: rest => '\n' :: universalNewlines rest
  | '\r' :: rest => '\n' :: universalNewlines rest
  | c :: rest => c :: universalNewlines rest

/-- The wording of bytes that are not text. -/
def undecodableMessage (f : Text.Utf8.Fault) : String :=
  "'utf-8' codec can't decode " ++
    (if f.length = 1 then
      "byte 0x" ++ String.ofList (Text.hexDigits 2 f.byte) ++ " in position " ++ toString f.position
    else
      "bytes in position " ++ toString f.position ++ "-" ++ toString (f.position + f.length - 1)) ++
    ": " ++ f.reason.message

end LayeredSettings
