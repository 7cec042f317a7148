/-
LayeredSettings/Log/Threshold.lean

Levels of logging by name.  The threshold of the settings and the level names of
a caller are two lists of names of their own; each name stands for a number, and
an event passes if its level is not below it.
-/
import LayeredSettings.Text.Lowercase
import LayeredSettings.Value.Text

namespace LayeredSettings

namespace Log

/-- Why logging cannot be set up. -/
inductive Refusal where
  | unknownThreshold (v : Value)
  | unknownLevel (name : String)
  | oddLevel (n : Int)
  deriving DecidableEq, Inhabited

/-- The wording of a refusal. -/
def Refusal.message : Refusal → String
  | .unknownThreshold v => "Unknown logging threshold: " ++ v.literal
  | .unknownLevel name => "Unknown log level: " ++ Text.quoted name
  | .oddLevel n => integerText n

/-- The level that nothing reaches. -/
def levelOff : Int := 60

/-- The level of the most serious events. -/
def levelCritical : Int := 50

/-- The levels of the thresholds. -/
def thresholdLevels : List (String × Int) :=
  [("off", levelOff), ("error", 40), ("warn", 30), ("info", 20), ("debug", 10), ("trace", 10)]

/-- The level of a threshold, in whatever case it is written. -/
def thresholdLevel : Value → Except Refusal Int
  | .text name =>
      match thresholdLevels.lookup (Text.lowercase name) with
      | some level => .ok level
      | none => .error (.unknownThreshold (.text name))
  | v => .error (.unknownThreshold v)

/-- The levels of the standard names. -/
def levelNames : List (String × Int) :=
  [("CRITICAL", levelCritical), ("FATAL", levelCritical), ("ERROR", 40), ("WARN", 30),
   ("WARNING", 30), ("INFO", 20), ("DEBUG", 10), ("NOTSET", 0)]

/-- The upper-case partner of a character, as far as a level name can hold it: besides ASCII, the
letters whose partner is in ASCII. -/
def upperChar (c : Char) : Char :=
  if c = 'ı' then 'I' else if c = 'ſ' then 'S' else c.toUpper

/-- The level of a standard name, in whatever case it is written. -/
def namedLevel (name : String) : Except Refusal Int :=
  match levelNames.lookup (String.ofList (name.toList.map upperChar)) with
  | some level => .ok level
  | none => .error (.unknownLevel name)

end Log

end LayeredSettings
