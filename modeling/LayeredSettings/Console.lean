/-
LayeredSettings/Console.lean

The command line: what is printed for some arguments, files and variables, and
the status it ends with.

    config show [--format table|json]    the resolved settings, secrets masked
    config validate                      whether the settings can be resolved
    config mandatory [--check]           the options that the user has to supply

A command prints its outcome and nothing else; events are handed out with the
output, for whoever writes the log.  Arguments are read before anything is
resolved, group by group, so a mistake in them costs nothing and shows no data.
-/
import LayeredSettings.Console.Arguments
import LayeredSettings.Console.Grid
import LayeredSettings.Console.Printed
import LayeredSettings.Log.Sink
import LayeredSettings.Resolution
import LayeredSettings.Value.Json

namespace LayeredSettings

namespace Console

/-! ### Output -/

/-- A failure that no command answers for. -/
inductive Crash where
  | level (r : Log.Refusal)
  | escaped (e : Escape)
  deriving DecidableEq, Inhabited

/-- The wording of a failure that no command answers for. -/
def Crash.message : Crash → String
  | .level r => r.message
  | .escaped e => e.message

/-- What a command leaves behind; `usage` asks for a word on how to use it. -/
structure Output where
  text : String
  status : Nat
  usage : Bool
  crash : Option Crash
  events : List Log.Event
  deriving DecidableEq, Inhabited

namespace Output

/-- Lines and a status. -/
def ofLines (lines : List String) (status : Nat) : Output :=
  ⟨String.join (lines.map fun l => l ++ "\n"), status, false, none, []⟩

/-- The output for arguments that make no sense. -/
def misuse : Output := ⟨"", 2, true, none, []⟩

/-- The output for a wish for help. -/
def help : Output := ⟨"", 0, true, none, []⟩

/-- The output of a failure that no command answers for. -/
def ofCrash (c : Crash) : Output := ⟨"", 1, false, some c, []⟩

/-- The output of a computation: a report is printed on a line of its own. -/
def ofRun {α : Type} (run : Run Failure α) (shown : α → Output) : Output :=
  let output := match run.outcome with
    | .ok a => shown a
    | .error (.reported r) => ofLines [printed ("Configuration Error: " ++ r.message)] 1
    | .error (.escaped e) => ofCrash (.escaped e)
  { output with events := run.events ++ output.events }

end Output

/-! ### The settings -/

/-- The settings of an environment, and the source they were resolved from. -/
def resolved (files : Files) (environment : Environment) : Run Failure (Source × Resolution) := do
  let source ← Source.ofEnvironment environment Source.defaultPath
  let r ← resolve files source environment
  return (source, r)

/-- What is printed for a source. -/
def sourceName (source : Source) : String :=
  if source.inline.isSome then "inline (" ++ Source.inlineVariable ++ ")" else source.path

/-- The resolved settings as a table of options, values and layers. -/
def settingsGrid (r : Resolution) : Grid where
  header := ["Option", "Value", "From"]
  rows := (Value.leaves "" (Settings.masked r.document)).map fun (path, v) =>
    [path, printedCell v.display, (r.provider.origin? (Path.ofText path)).getD defaultsName]

/-- The resolved settings under the name of their source. -/
def settingsLines (source : Source) (r : Resolution) : List String :=
  [printed ("Source: " ++ sourceName source),
    "Schema Version: " ++ Settings.version r.document] ++ (settingsGrid r).lines

/-- The resolved settings in a format. -/
def showSettings (files : Files) (environment : Environment) (format : String) : Output :=
  if format = "table" then
    Output.ofRun (resolved files environment) fun (source, r) =>
      Output.ofLines (settingsLines source r) 0
  else if format = "json" then
    Output.ofRun (resolved files environment) fun (_, r) =>
      Output.ofLines [(Settings.masked r.document).json] 0
  else Output.ofLines [printed ("Unknown format: " ++ format)] 2

/-- Whether the settings can be resolved. -/
def validateSettings (files : Files) (environment : Environment) : Output :=
  Output.ofRun (resolved files environment) fun (_, r) =>
    Output.ofLines
      ["✓ Configuration valid (schema " ++ Settings.version r.document ++ ")"] 0

/-! ### Mandatory options -/

/-- A mandatory option and the layer that supplies it. -/
def originLine : String × Option String → String
  | (option, some layer) => "✓ " ++ option ++ " (" ++ layer ++ ")"
  | (option, none) => "✗ " ++ option

/-- The mandatory options and which of them the user supplies; one that is missing shows in the
status. -/
def checkOptions (files : Files) (environment : Environment) : Output :=
  Output.ofRun (do
    let source ← Source.ofEnvironment environment Source.defaultPath
    userProvider files source environment) fun p =>
      let origins := p.origins mandatoryOptions
      Output.ofLines (origins.map originLine) (if origins.any (·.2.isNone) then 1 else 0)

/-! ### Commands -/

/-- The switch that asks for help. -/
def helpSwitch : Switch := ⟨"--help", none, false⟩

/-- The switch that asks for the version. -/
def versionSwitch : Switch := ⟨"--version", some 'V', false⟩

/-- The switch of the level of the log. -/
def levelSwitch : Switch := ⟨"--log-level", none, true⟩

/-- The switch of the format. -/
def formatSwitch : Switch := ⟨"--format", some 'f', true⟩

/-- The switch that asks which options are supplied. -/
def checkSwitch : Switch := ⟨"--check", some 'c', false⟩

/-- The name and the version of the program. -/
def versionLine : String := "torrent-index-config 2.0.0"

/-- The level of the log unless another one is asked for. -/
def defaultLevel : String := "WARNING"

/-- What the first switch that asks for help or the version gets, or else another output. -/
def answering (a : Arguments) (otherwise : Output) : Output :=
  match a.given.find? fun g => g.name == helpSwitch.name || g.name == versionSwitch.name with
  | none => otherwise
  | some g => if g.name = helpSwitch.name then Output.help else Output.ofLines [versionLine] 0

/-- A group of commands: its switches, and what the arguments behind them do. -/
def group (switches : List Switch) (arguments : List String)
    (act : Arguments → String → List String → Output) : Output :=
  match arguments, scan switches false arguments with
  | [], _ => Output.misuse
  | _, none => Output.misuse
  | _, some a =>
      answering a (match a.rest with
        | [] => Output.misuse
        | name :: rest => act a name rest)

/-- What is said of a command that is not there; its name may be a switch of the group. -/
def unknownCommand (switches : List Switch) (arguments : List String) : Output :=
  match scan switches false arguments with
  | none => Output.misuse
  | some a => answering a Output.misuse

/-- A command: its switches, and what it does; it takes no other arguments. -/
def command (switches : List Switch) (arguments : List String) (act : Arguments → Output) :
    Output :=
  match scan (helpSwitch :: switches) true arguments with
  | none => Output.misuse
  | some a => answering a (if a.rest.isEmpty then act a else Output.misuse)

/-- The commands on the settings. -/
def configCommands (files : Files) (environment : Environment) (arguments : List String) :
    Output :=
  group [helpSwitch] arguments fun _ name rest =>
    if name = "show" then
      command [formatSwitch] rest fun a =>
        showSettings files environment ((a.value? formatSwitch.name).getD "table")
    else if name = "validate" then command [] rest fun _ => validateSettings files environment
    else if name = "mandatory" then
      command [checkSwitch] rest fun a =>
        if a.has checkSwitch.name then checkOptions files environment
        else Output.ofLines mandatoryOptions 0
    else unknownCommand [helpSwitch] (name :: rest)

/-- The switches of the program. -/
def programSwitches : List Switch := [versionSwitch, levelSwitch, helpSwitch]

/-- The level of the log that some arguments ask for. -/
def levelName (a : Arguments) : String := (a.value? levelSwitch.name).getD defaultLevel

/-- The filter of the log that some arguments ask for. -/
def logSink (arguments : List String) : Log.Sink :=
  match scan programSwitches false arguments with
  | none => Log.Sink.initial
  | some a =>
      (Log.Sink.initial.configure (.named (levelName a)) Log.Sink.defaultService false).1

/-- How the program is used. -/
def usageLines : List String :=
  ["Usage: torrent-index-config [--version] [--log-level LEVEL] config COMMAND",
   "Commands:",
   "  show [--format table|json]   show the resolved configuration, secrets masked",
   "  validate                     report the first problem of the configuration, if any",
   "  mandatory [--check]          list the options that must be supplied"]

/-- The program. -/
def run (files : Files) (environment : Environment) (arguments : List String) : Output :=
  group programSwitches arguments fun a name rest =>
    if name = "config" then
      match Log.namedLevel (levelName a) with
      | .error r => Output.ofCrash (.level r)
      | .ok _ => configCommands files environment rest
    else unknownCommand programSwitches (name :: rest)

end Console

end LayeredSettings
