/-
LayeredSettings/Schema.lean

Schemas of documents.  A schema is an option with its initial value, or a
section with members.  Reading a value by a schema (`Schema.read`) gives a
document in normal form: every member of every section is there, in the order of
the schema, and null stands for an option or a section that is not set.  What
the schema does not know is left out, and what is absent has its initial value.

All issues of a document are found, in the order of the schema.
-/
import LayeredSettings.Schema.Kind

namespace LayeredSettings

/-- How a member of a section is called: its key in a document, and its field in code. -/
structure Name where
  key : String
  field : String
  deriving DecidableEq, Inhabited

/-- Whether an option may be unset. -/
inductive Presence where
  | required
  | optional
  | clearable
  deriving DecidableEq, Inhabited

/-- What a document looks like. -/
inductive Schema where
  | option (kind : Kind) (presence : Presence) (initial : Value)
  | group (title : String) (optional : Bool) (members : List (Name × Schema))
  deriving Inhabited

namespace Schema

/-! ### Initial documents -/

mutual

/-- The document before anything is set. -/
def initial : Schema → Value
  | .option _ _ v => v
  | .group _ optional members => if optional then .null else .table (initials members)

/-- The members of a section before anything is set. -/
def initials : List (Name × Schema) → Table
  | [] => []
  | (name, s) :: rest => (name.key, initial s) :: initials rest

end

/-! ### Reading -/

/-- What an option that may be unset makes of a value; a clearable one is unset by the empty
text. -/
def readOption (kind : Kind) (presence : Presence) (v : Value) : Except (List Issue) Value :=
  let unset : Bool := match presence with
    | .required => false
    | .optional => v = .null
    | .clearable => v = .null || v = .text ""
  if unset then .ok .null
  else
    match kind.read v with
    | .ok w => .ok w
    | .error m => .error [⟨[], m⟩]

/-- The key under which a table holds a member, and its value: the key of the document goes
before the name of the field. -/
def locate (name : Name) (t : Table) : Option (String × Value) :=
  match Table.get? t name.key with
  | some v => some (name.key, v)
  | none => (Table.get? t name.field).map fun v => (name.field, v)

/-- The outcomes of a first member and of the rest: all issues of both count. -/
def alongside (key : String) :
    Except (List Issue) Value → Except (List Issue) Table → Except (List Issue) Table
  | .ok v, .ok rest => .ok ((key, v) :: rest)
  | .error e, .ok _ => .error e
  | .ok _, .error e => .error e
  | .error e, .error f => .error (e ++ f)

/-- An outcome seen from the section above. -/
def under (key : String) : Except (List Issue) Value → Except (List Issue) Value
  | .ok v => .ok v
  | .error issues => .error (issues.map (Issue.under key))

mutual

/-- The document that a value describes. -/
def read : Schema → Value → Except (List Issue) Value
  | .option kind presence _, v => readOption kind presence v
  | .group _ _ members, .table t =>
      match readMembers members t with
      | .ok entries => .ok (.table entries)
      | .error issues => .error issues
  | .group _ optional _, .null => if optional then .ok .null else .error [⟨[], .notSection⟩]
  | .group _ _ _, _ => .error [⟨[], .notSection⟩]

/-- The members of a section that a table describes. -/
def readMembers : List (Name × Schema) → Table → Except (List Issue) Table
  | [], _ => .ok []
  | (name, s) :: rest, t =>
      alongside name.key
        (match locate name t with
         | none => .ok (initial s)
         | some (key, v) => under key (read s v))
        (readMembers rest t)

end

/-! ### Showing -/

mutual

/-- A document with its secrets masked. -/
def masked : Schema → Value → Value
  | .option kind _ _, v => kind.masked v
  | .group _ _ members, .table t => .table (maskedMembers members t)
  | .group _ _ _, v => v

/-- The members of a section with their secrets masked. -/
def maskedMembers : List (Name × Schema) → Table → Table
  | (_, s) :: rest, (key, v) :: entries => (key, masked s v) :: maskedMembers rest entries
  | _, _ => []

end

/-! ### Fields -/

/-- The name of the type of a document. -/
def typeName : Schema → Value → String
  | _, .null => "NoneType"
  | .option kind _ _, _ => kind.typeName
  | .group title _ _, _ => title

/-- Why a field cannot be read or assigned. -/
inductive Refusal where
  | unknown (owner field : String)
  | invalid (title : String) (issues : List Issue)
  deriving DecidableEq, Inhabited

/-- The wording of a refusal to go on from a field that is not there. -/
def unknownMessage (owner field : String) : String :=
  "'" ++ owner ++ "' object has no attribute '" ++ field ++ "'"

/-- The member that a field names. -/
def member? (members : List (Name × Schema)) (field : String) : Option (Name × Schema) :=
  members.find? fun m => m.1.field == field

/-- The part of a document that fields lead to. -/
def project (s : Schema) (v : Value) : List String → Except Refusal (Schema × Value)
  | [] => .ok (s, v)
  | a :: rest =>
      match s, v with
      | .group title _ members, .table t =>
          match member? members a with
          | none => .error (.unknown title a)
          | some (name, below) =>
              project below ((Table.get? t name.key).getD .null) rest
      | s, v => .error (.unknown (typeName s v) a)

/-- The document with a value assigned to the field at the end of a path. -/
def assign (s : Schema) (doc : Value) (path : List String) (v : Value) : Except Refusal Value :=
  match path with
  | [] => .error (.unknown (typeName s doc) "")
  | a :: rest =>
      match s, doc with
      | .group title _ members, .table t =>
          match member? members a, rest with
          | none, [] => .error (.invalid title [⟨[a], .unknownField⟩])
          | none, _ :: _ => .error (.unknown title a)
          | some (name, below), [] =>
              match under a (below.read v) with
              | .ok w => .ok (.table (Table.put t name.key w))
              | .error issues => .error (.invalid title issues)
          | some (name, below), _ :: _ =>
              match assign below ((Table.get? t name.key).getD .null) rest v with
              | .ok w => .ok (.table (Table.put t name.key w))
              | .error r => .error r
      | s, doc => .error (.unknown (typeName s doc) a)

end Schema

/-! ### What is set -/

mutual

/-- A value without the entries that are null. -/
def Value.present : Value → Value
  | .table entries => .table (Table.present entries)
  | v => v

/-- The entries that are not null, each without the entries of its own that are. -/
def Table.present : List (String × Value) → List (String × Value)
  | [] => []
  | (key, v) :: rest =>
      if v = .null then Table.present rest else (key, Value.present v) :: Table.present rest

end

end LayeredSettings
