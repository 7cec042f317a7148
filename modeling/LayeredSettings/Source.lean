/-
LayeredSettings/Source.lean

Where the user's document comes from: a text given as it is, which always wins,
or a file.  `Source.ofEnvironment` finds the source by two variables,
and `Source.load` reads it as a layer.

A document that cannot be read is reported with the source it came from.  The
log says which source was read and which keys it holds, and never a value.
-/
import LayeredSettings.Override

namespace LayeredSettings

/-- A document given as a text, or else by the path of a file. -/
structure Source where
  inline : Option String
  path : String
  deriving DecidableEq, Inhabited

namespace Source

/-- The variable that holds a whole document. -/
def inlineVariable : String := "TORRUST_INDEX_CONFIG_TOML"

/-- The variable that holds the path of a document. -/
def pathVariable : String := "TORRUST_INDEX_CONFIG_TOML_PATH"

/-- The path of the document when no variable names one. -/
def defaultPath : String := "./share/default/config/index.development.sqlite3.toml"

/-- The name of a layer that was given as a text. -/
def inlineLayer : String := "inline"

/-- The name of a layer that was read from a file. -/
def fileLayer : String := "file"

/-- What reports call a document that was given as a text. -/
def inlineName : String := "inline payload"

/-- The source that an environment selects. -/
def ofEnvironment (environment : Environment) (otherwise : String) : Run Failure Source := do
  let inline := environment.get? inlineVariable
  if inline.isSome then
    Run.emit .info "config_source_selected"
      [("source", .text "env"), ("variable", .text inlineVariable)]
  match environment.get? pathVariable with
  | some path =>
      Run.emit .info "config_file_selected"
        [("path", .text path), ("variable", .text pathVariable)]
      return ⟨inline, path⟩
  | none =>
      Run.emit .info "config_file_selected" [("path", .text otherwise), ("default", .boolean true)]
      return ⟨inline, otherwise⟩

/-! ### Documents -/

/-- The tree of a document; what is wrong with its text is reported with the source. -/
def parse (text sourceName sourceType : String) : Except Failure Table :=
  match Toml.parse text with
  | .ok t => .ok t
  | .error (.longInteger digits) => .error (.escaped (.longInteger digits))
  | .error (.malformed f p) =>
      let message := "malformed TOML in " ++ sourceName ++ ": " ++ Toml.faultMessage f p
      let report := Report.of (.unusable message) (some (.malformed f p))
      .error (.reported { report with
        context := ⟨.text sourceName, .text sourceType, .null, []⟩ })

/-- The cause of a file that cannot be read as text. -/
def fileCause (files : Files) (path : String) : Except Cause (List Char) :=
  match files path with
  | .error f => .error (.unreadable f (cleanPath path))
  | .ok bytes =>
      match Text.Utf8.decode bytes with
      | .error f => .error (.undecodable f)
      | .ok text => .ok (universalNewlines text)

/-- The text of a file; the log says what is wrong with it. -/
def readFile (files : Files) (path : String) : Run Failure String :=
  if path.toList.contains '\x00' then Run.fail (.escaped .nullInPath)
  else
    match fileCause files path with
    | .ok text => return String.ofList text
    | .error cause => do
        Run.emit .error "config_file_unreadable"
          [("path", .text path), ("error", .text cause.message)]
        Run.fail (.reported (Report.of (.unreadableFile path) (some cause)))

/-- The keys at the top of a tree, in order, as the log shows them. -/
def keyList (t : Table) : Value := .array ((t.keys.mergeSort fun a b => a ≤ b).map .text)

/-- The document of a source as a layer. -/
def load (files : Files) (source : Source) : Run Failure Layer :=
  match source.inline with
  | some text => do
      let data ← Run.ofExcept (parse text inlineName inlineLayer)
      Run.emit .debug "config_source_loaded"
        [("source", .text inlineLayer), ("keys", keyList data)]
      return ⟨inlineLayer, data⟩
  | none => do
      let text ← readFile files source.path
      let data ← Run.ofExcept (parse text source.path fileLayer)
      Run.emit .debug "config_source_loaded"
        [("source", .text fileLayer), ("path", .text source.path), ("keys", keyList data)]
      return ⟨fileLayer, data⟩

end Source

end LayeredSettings
