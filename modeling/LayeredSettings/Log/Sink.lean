/-
LayeredSettings/Log/Sink.lean

Where events go: which of them are written, and as what record.

Two filters stand one behind the other.  The first knows the standard levels
only and takes the most serious one at most; the second takes any number, so it
can keep everything out.  An event is written if it passes both.

A record holds what is bound, the fields of the event over it, and over these
the event, its level and the logger; the service is only added if it is absent.
-/
import LayeredSettings.Log.Event
import LayeredSettings.Log.Threshold
import LayeredSettings.Settings

namespace LayeredSettings

namespace Log

/-- A level, as a caller gives it. -/
inductive Level where
  | named (name : String)
  | numbered (n : Int)
  deriving DecidableEq, Inhabited

/-- The number of a level. -/
def Level.number : Level → Except Refusal Int
  | .named name => namedLevel name
  | .numbered n => .ok n

/-- How events are filtered and stamped. -/
structure Sink where
  service : String
  timestamps : Bool
  eventLevel : Int
  streamLevel : Int
  deriving DecidableEq, Inhabited

namespace Sink

/-- The service of a sink that was given none. -/
def defaultService : String := "torrust-index"

/-- A sink for events that are at least informative. -/
def initial : Sink := ⟨defaultService, false, 20, 20⟩

/-! ### Setting up -/

/-- The levels that the first filter knows. -/
def standardLevels : List Int := [0, 10, 20, 30, 40, 50]

/-- The sink set up anew.  An unknown name changes nothing; a number that is no standard level is
refused when the service is already set. -/
def configure (s : Sink) (level : Level) (service : String) (timestamps : Bool) :
    Sink × Except Refusal Unit :=
  match level.number with
  | .error r => (s, .error r)
  | .ok n =>
      let capped := min n levelCritical
      if standardLevels.contains capped then (⟨service, timestamps, capped, n⟩, .ok ())
      else ({ s with service := service }, .error (.oddLevel capped))

/-- The sink set up by the threshold of a document, with the level that was used. -/
def configureFrom (s : Sink) (d : Document) : Sink × Except Refusal Int :=
  match thresholdLevel (.text (Settings.threshold d)) with
  | .error r => (s, .error r)
  | .ok level =>
      match s.configure (.numbered level) s.service true with
      | (after, .ok ()) => (after, .ok level)
      | (after, .error r) => (after, .error r)

/-! ### Records -/

/-- Whether events of a level are written. -/
def admits (s : Sink) (level : Int) : Bool := s.eventLevel ≤ level && s.streamLevel ≤ level

/-- The entries of one table over those of another. -/
def overlaid (t : Table) (entries : List (String × Value)) : Table :=
  entries.foldl (fun t e => Table.put t e.1 e.2) t

/-- The record of an event at a time. -/
def record (s : Sink) (bound : Table) (e : Event) (logger now : String) : Table :=
  let body := overlaid (overlaid bound e.fields)
    [("event", .text e.name), ("level", .text e.severity.name), ("logger", .text logger)]
  let served := match Table.get? body "service" with
    | some _ => body
    | none => Table.put body "service" (.text s.service)
  if s.timestamps then Table.put served "timestamp" (.text now) else served

/-- What is written of an event. -/
def write (s : Sink) (bound : Table) (e : Event) (logger now : String) : List Table :=
  if s.admits e.severity.level then [s.record bound e logger now] else []

end Sink

/-- The severity that a logging method stands for. -/
def Severity.ofMethod? (method : String) : Option Severity :=
  [("debug", Severity.debug), ("info", Severity.info), ("msg", Severity.info),
   ("warning", Severity.warning), ("warn", Severity.warning), ("error", Severity.error),
   ("exception", Severity.error), ("critical", Severity.critical),
   ("fatal", Severity.critical)].lookup method

end Log

end LayeredSettings
