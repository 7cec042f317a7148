/-
LayeredSettings/Report.lean

Reports of what went wrong, for the operator of the index.  A report holds the
problem, where it was met (`Context`) and what lay beneath it (`Cause`); its
wording, category and summary are computed from these.

A report classifies itself by its problem; the two most general problems may be
classified otherwise, and may be declared worth another try.

`Failure` is the way a computation of this library ends without a result: with
a report, or with one of the few failures that no report covers (`Escape`).
-/
import LayeredSettings.Files
import LayeredSettings.Schema.Issue
import LayeredSettings.Toml.Fault
import LayeredSettings.Value.Text

namespace LayeredSettings

/-! ### Classification -/

/-- Broad classes of errors. -/
inductive Category where
  | config
  | parse
  | validation
  | storage
  | internal
  | unknown
  deriving DecidableEq, Inhabited

/-- The name of a class of errors. -/
def Category.name : Category → String
  | .config => "CONFIG"
  | .parse => "PARSE"
  | .validation => "VALIDATION"
  | .storage => "STORAGE"
  | .internal => "INTERNAL"
  | .unknown => "UNKNOWN"

/-! ### Context -/

/-- Where an error happened; what is not known is null. -/
structure Context where
  sourceName : Value
  sourceType : Value
  optionPath : Value
  details : Table
  deriving DecidableEq, Inhabited

namespace Context

/-- Nothing is known. -/
def empty : Context := ⟨.null, .null, .null, []⟩

/-- A known fact under its name, and nothing for an unknown one. -/
def known (name : String) (v : Value) : Table := if v = .null then [] else [(name, v)]

/-- The known facts, with the details over them. -/
def toTable (c : Context) : Table :=
  c.details.foldl (fun t e => Table.put t e.1 e.2)
    (known "source_name" c.sourceName ++ known "source_type" c.sourceType ++
      known "option_path" c.optionPath)

/-- The context with one more fact; a name that is no field goes to the details. -/
def set (c : Context) (name : String) (v : Value) : Context :=
  if name = "source_name" then { c with sourceName := v }
  else if name = "source_type" then { c with sourceType := v }
  else if name = "option_path" then { c with optionPath := v }
  else { c with details := Table.put c.details name v }

end Context

/-! ### Causes -/

/-- Families of errors that come from outside the library. -/
inductive Foreign where
  | system
  | value
  | type
  | key
  | other
  deriving DecidableEq, Inhabited

/-- The class that a foreign error belongs to. -/
def Foreign.category : Foreign → Category
  | .system => .storage
  | .value => .validation
  | .type => .validation
  | .key => .unknown
  | .other => .unknown

/-- The text of one argument of a foreign error. -/
def argumentText : Value → String
  | .text s => s
  | v => v.literal

/-- The text of a foreign error: its only argument, or all of them; a system error shows its
number, its text and the file. -/
def Foreign.message (kind : Foreign) : List Value → String
  | [] => ""
  | [one] => if kind = .key then one.literal else argumentText one
  | number :: text :: rest =>
      if kind = .system then
        "[Errno " ++ argumentText number ++ "] " ++ argumentText text ++
          (match rest with
           | [] => ""
           | file :: _ => ": " ++ file.literal)
      else
        "(" ++ ", ".intercalate (Value.itemLiterals (number :: text :: rest)) ++ ")"

/-- What lay beneath a problem. -/
inductive Cause where
  | malformed (f : Toml.Fault) (p : Toml.Position)
  | unfit (issues : List Issue)
  | unreadable (f : FileFault) (path : String)
  | undecodable (f : Text.Utf8.Fault)
  | foreign (kind : Foreign) (arguments : List Value)
  | report (message : String)
  deriving DecidableEq, Inhabited

/-- The number of issues of a misfit and the options concerned, which is what a report says of
it. -/
def issuesMessage (issues : List Issue) : String :=
  toString issues.length ++ " invalid option(s): " ++
    ", ".intercalate (issues.map fun i => Path.text i.location)

/-- The wording of a cause.  For a misfit it is the number of issues and the options concerned, as
in the report above it, and not the text of the schema library on each issue. -/
def Cause.message : Cause → String
  | .malformed f p => Toml.faultMessage f p
  | .unfit issues => issuesMessage issues
  | .unreadable f path => f.report path
  | .undecodable f => undecodableMessage f
  | .foreign kind arguments => kind.message arguments
  | .report message => message

/-! ### Reports -/

/-- What went wrong. -/
inductive Problem where
  | general (message : String)
  | settings (message : String)
  | unreadableVariable (name : String)
  | unreadableFile (path : String)
  | unusable (message : String)
  | missingOption (path : String)
  | unsupportedVersion (version : String)
  | impossible
  deriving DecidableEq, Inhabited

namespace Problem

/-- The name of a kind of problem. -/
def name : Problem → String
  | general _ => "TorrentIndexError"
  | settings _ => "SettingsError"
  | unreadableVariable _ => "UnableToLoadFromEnvironmentVariable"
  | unreadableFile _ => "UnableToLoadFromConfigFile"
  | unusable _ => "ConfigError"
  | missingOption _ => "MissingMandatoryOption"
  | unsupportedVersion _ => "UnsupportedVersion"
  | impossible => "Infallible"

/-- The class of a problem unless its report says otherwise. -/
def category : Problem → Category
  | general _ => .internal
  | impossible => .internal
  | _ => .config

/-- Whether a problem is one of resolving settings. -/
def concernsSettings : Problem → Bool
  | general _ => false
  | _ => true

/-- The wording of a problem above an optional cause. -/
def message (cause : Option Cause) : Problem → String
  | general m => m
  | settings m => m
  | unreadableVariable v =>
      "Unable to load from environment variable " ++ v ++ ": " ++ causeText cause
  | unreadableFile path => "Unable to load from config file " ++ path ++ ": " ++ causeText cause
  | unusable m => "Failed processing the configuration: " ++ m
  | missingOption path => "Missing mandatory configuration option. Option path: " ++ path
  | unsupportedVersion version => "Unsupported configuration version: " ++ version
  | impossible => "The error for errors that can never happen."
where
  /-- The wording of a cause that may be absent. -/
  causeText : Option Cause → String
    | none => "None"
    | some c => c.message

/-- What a problem itself says about its place. -/
def context : Problem → Context
  | unreadableVariable v => { Context.empty with sourceName := .text v, sourceType := .text "env" }
  | unreadableFile path =>
      { Context.empty with sourceName := .text path, sourceType := .text "file" }
  | missingOption path => { Context.empty with optionPath := .text path }
  | unsupportedVersion _ => { Context.empty with optionPath := .text "metadata.schema_version" }
  | _ => Context.empty

end Problem

/-- A problem with its place, its cause and its classification. -/
structure Report where
  problem : Problem
  category : Category
  retryable : Bool
  context : Context
  cause : Option Cause
  deriving DecidableEq, Inhabited

namespace Report

/-- The report of a problem as it classifies itself. -/
def of (problem : Problem) (cause : Option Cause) : Report :=
  ⟨problem, problem.category, false, problem.context, cause⟩

/-- The wording of a report. -/
def message (r : Report) : String := r.problem.message r.cause

/-- The report with more facts about its place. -/
def withContext (r : Report) (facts : Table) : Report :=
  { r with context := facts.foldl (fun c e => c.set e.1 e.2) r.context }

/-- The summary of a report: what is not known is left out. -/
def summary (r : Report) : Table :=
  [("error_type", .text r.problem.name), ("message", .text r.message),
    ("category", .text r.category.name), ("retryable", .boolean r.retryable)] ++
    (if r.context.toTable.isEmpty then [] else [("context", .table r.context.toTable)]) ++
    (match r.cause with
     | none => []
     | some c => [("cause", .text c.message)])

/-- A report on one line. -/
def line (r : Report) : String :=
  r.problem.name ++ "(" ++ Text.quoted r.message ++ ", category=" ++ r.category.name ++ ")"

end Report

/-! ### Failures -/

/-- A failure that no report covers. -/
inductive Escape where
  | nullInPath
  | longInteger (digits : Nat)
  | longText
  | emptySeparator
  deriving DecidableEq, Inhabited

/-- The wording of an integer with too many digits for a text. -/
def longTextMessage : String :=
  "Exceeds the limit (" ++ toString numeralLimit ++
    " digits) for integer string conversion; use sys.set_int_max_str_digits() to increase the limit"

/-- The wording of a failure that no report covers. -/
def Escape.message : Escape → String
  | .nullInPath => "embedded null byte"
  | .longInteger digits => Toml.longIntegerMessage digits
  | .longText => longTextMessage
  | .emptySeparator => "empty separator"

/-- How a computation ends without a result. -/
inductive Failure where
  | reported (r : Report)
  | escaped (e : Escape)
  deriving DecidableEq, Inhabited

end LayeredSettings
