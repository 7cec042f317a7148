/-
LayeredSettings/Override.lean

Overrides of single options by environment variables.  A variable applies if its
name starts with a prefix and the rest, cut at a separator, has no empty piece;
the pieces in lower case are the path of the option (`overridePath?`).  The text
of the variable is the value, unless it reads as an array or an inline table
(`overrideValue`).

`collectOverrides` assigns the variables in the order of their names
(`Table.assign`), so the layer does not depend on the order of the environment.
The log names variables and paths and never a value.
-/
import LayeredSettings.Layer
import LayeredSettings.Log.Event
import LayeredSettings.Report
import LayeredSettings.Text.Lowercase
import LayeredSettings.Toml.Document

namespace LayeredSettings

/-- The variables of an environment. -/
abbrev Environment := List (String × String)

/-- The value of a variable. -/
def Environment.get? (environment : Environment) (name : String) : Option String :=
  (environment.find? fun e => e.1 == name).map (·.2)

/-- The start of the names of override variables. -/
def overridePrefix : String := "TORRUST_INDEX_CONFIG_OVERRIDE_"

/-- What stands between two keys in the name of an override variable. -/
def overrideSeparator : String := "__"

/-- The name of the layer of overrides. -/
def overridesLayer : String := "env-overrides"

/-! ### Names -/

/-- The rest of a name behind a prefix. -/
def behindPrefix? (start name : String) : Option (List Char) :=
  if start.toList.isPrefixOf name.toList then some (name.toList.drop start.toList.length) else none

/-- The path that a variable overrides, if it applies.  With an empty separator no name that
starts with the prefix can be cut. -/
def overridePath? (start separator name : String) : Except Escape (Option Path) :=
  match behindPrefix? start name with
  | none => .ok none
  | some rest =>
      if separator.toList = [] then .error .emptySeparator
      else
        let keys := (Text.pieces separator.toList rest).map Text.lowercaseChars
        if keys.any (·.isEmpty) then .ok none else .ok (some (keys.map String.ofList))

/-! ### Values -/

/-- Whether a text may be an array or an inline table on one line. -/
def looksStructured (raw : List Char) : Bool :=
  (match raw with
   | c :: _ => c == '[' || c == '\x7b'
   | [] => false) && !raw.contains '\n' && !raw.contains '\r'

/-- The value that the text of a variable stands for. -/
def overrideValue (raw : String) : Except Escape Value :=
  if looksStructured raw.toList then
    match Toml.parseChars ("value = ".toList ++ raw.toList) with
    | .ok t => .ok ((Table.get? t "value").getD (.text raw))
    | .error (.malformed _ _) => .ok (.text raw)
    | .error (.longInteger digits) => .error (.longInteger digits)
  else .ok (.text raw)

/-! ### Assignment -/

/-- A table with a value at a path; anything but a table on the way gives way to one. -/
def Table.assign (t : Table) : Path → Value → Table
  | [], _ => t
  | [key], v => Table.put t key v
  | key :: next :: rest, v =>
      let below := match Table.get? t key with
        | some (.table s) => s
        | _ => []
      Table.put t key (.table (Table.assign below (next :: rest) v))

/-! ### Collection -/

/-- The tree and the paths collected so far. -/
structure Collected where
  tree : Table
  paths : List Path
  deriving Inhabited

/-- Takes one variable: assigns it, or says why it is ignored. -/
def Collected.take (start separator : String) (c : Collected) (entry : String × String) :
    Run Failure Collected :=
  match overridePath? start separator entry.1 with
  | .error e => Run.fail (.escaped e)
  | .ok none =>
      if (behindPrefix? start entry.1).isSome then do
        Run.emit .warning "config_override_ignored"
          [("variable", .text entry.1), ("reason", .text "empty path segment")]
        return c
      else return c
  | .ok (some path) =>
      match overrideValue entry.2 with
      | .error e => Run.fail (.escaped e)
      | .ok v => return ⟨Table.assign c.tree path v, c.paths ++ [path]⟩

/-- Takes variables one after the other. -/
def Collected.takeAll (start separator : String) : List (String × String) → Collected →
    Run Failure Collected
  | [], c => return c
  | entry :: rest, c => do
      let c ← c.take start separator entry
      Collected.takeAll start separator rest c

/-- The variables of an environment in the order of their names. -/
def Environment.sorted (environment : Environment) : Environment :=
  environment.mergeSort fun a b => a.1 ≤ b.1

/-- The layer of all overrides of an environment. -/
def collectOverrides (environment : Environment) (start separator : String) :
    Run Failure Layer := do
  let c ← Collected.takeAll start separator environment.sorted ⟨[], []⟩
  if c.paths ≠ [] then
    Run.emit .info "config_overrides_collected"
      [("count", .integer c.paths.length),
        ("paths", .array (c.paths.map fun p => .text (Path.text p)))]
  return ⟨overridesLayer, c.tree⟩

end LayeredSettings
