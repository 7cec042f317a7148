/-
LayeredSettings/Resolution.lean

The resolution of the settings: from a source and an environment to a document.

The layers of the user are the source and, above it, the overrides.  Mandatory
options are looked for in these two alone; only then do the defaults go below
them, the merged tree is read by the schema, and its version is checked.

Nothing of a failed resolution is kept, and its events tell what was done before
it failed.
-/
import LayeredSettings.Mandatory
import LayeredSettings.Settings
import LayeredSettings.Source

namespace LayeredSettings

/-- The name of the layer of defaults. -/
def defaultsName : String := "defaults"

/-- The initial document as a layer. -/
def defaultsLayer : Layer := ⟨defaultsName, Settings.layerData Settings.initial⟩

/-- The layers of the user: the document of a source, and the overrides above it. -/
def userProvider (files : Files) (source : Source) (environment : Environment) :
    Run Failure Provider := do
  let document ← source.load files
  let overrides ← collectOverrides environment overridePrefix overrideSeparator
  return ⟨[document, overrides]⟩

/-! ### Documents -/

/-- The report of a tree that does not fit the schema. -/
def unfitReport (p : Provider) (issues : List Issue) : Report :=
  { Report.of (.unusable (issuesMessage issues)) (some (.unfit issues)) with
    context :=
      { Context.empty with
        optionPath := match issues with
          | [] => .null
          | first :: _ => .text (Path.text first.location)
        details := [("layers", p.nameList)] } }

/-- Whether an option of text met an integer that has no text; no report covers that. -/
def holdsOverlong (issues : List Issue) : Bool := issues.any fun i => i.misfit == .overlongText

/-- The document that the merged tree of a provider describes. -/
def extract (p : Provider) : Run Failure Document :=
  match Settings.read (.table p.merged) with
  | .ok d => return d
  | .error issues =>
      if holdsOverlong issues then Run.fail (.escaped .longText)
      else do
        Run.emit .error "config_extract_failed"
          [("error_count", .integer issues.length),
            ("paths", .array (issues.map fun i => .text (Path.text i.location)))]
        Run.fail (.reported (unfitReport p issues))

/-- Fails unless a document declares the version that is read. -/
def checkVersion (d : Document) : Run Failure Document :=
  if Settings.version d = Settings.supportedVersion then return d
  else do
    Run.emit .error "config_version_unsupported"
      [("version", .text (Settings.version d)), ("supported", .text Settings.supportedVersion)]
    Run.fail (.reported (Report.of (.unsupportedVersion (Settings.version d)) none))

/-! ### Resolution -/

/-- A document and the layers of the user that it was made from. -/
structure Resolution where
  document : Document
  provider : Provider
  deriving DecidableEq, Inhabited

/-- What the log calls a source. -/
def Source.label (source : Source) : String :=
  if source.inline.isSome then Source.inlineLayer else source.path

/-- The settings of a source and an environment. -/
def resolve (files : Files) (source : Source) (environment : Environment) :
    Run Failure Resolution := do
  let provider ← userProvider files source environment
  checkMandatory provider mandatoryOptions
  let full := provider.join defaultsLayer
  let extracted ← extract full
  let document ← checkVersion extracted
  Run.emit .info "config_loaded"
    [("source", .text source.label), ("layers", full.nameList),
      ("schema_version", .text (Settings.version document))]
  return ⟨document, provider⟩

/-- The leaves of a resolved document that the user supplied, each with the layer it came
from. -/
def Resolution.supplied (r : Resolution) : List (String × String) :=
  (Settings.leaves r.document).filterMap fun e =>
    (r.provider.origin? (Path.ofText e.1)).map fun layer => (e.1, layer)

end LayeredSettings
