/-
LayeredSettings/Mandatory.lean

Options that the user has to supply.  A default never counts: the check looks at
the layers of the user alone and stops at the first option that is missing.
-/
import LayeredSettings.Layer
import LayeredSettings.Log.Event
import LayeredSettings.Report

namespace LayeredSettings

/-- The options that the user has to supply. -/
def mandatoryOptions : List String :=
  ["auth.user_claim_token_pepper", "logging.threshold", "metadata.schema_version",
   "tracker.token"]

/-- The names of the layers of a provider as a value. -/
def Provider.nameList (p : Provider) : Value := .array (p.names.map .text)

/-- The first of some options that no layer supplies. -/
def Provider.firstMissing? (p : Provider) (options : List String) : Option String :=
  options.find? fun option => !p.contains (Path.ofText option)

/-- Some options, each with the highest layer that holds a value for it by itself. -/
def Provider.origins (p : Provider) (options : List String) : List (String × Option String) :=
  options.map fun option => (option, p.origin? (Path.ofText option))

/-- Fails at the first of some options that no layer supplies. -/
def checkMandatory (p : Provider) (options : List String) : Run Failure Unit :=
  match p.firstMissing? options with
  | none => return ()
  | some option => do
      Run.emit .error "config_mandatory_option_missing"
        [("option", .text option), ("layers", p.nameList)]
      Run.fail (.reported (Report.of (.missingOption option) none))

end LayeredSettings
