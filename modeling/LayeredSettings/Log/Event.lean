/-
LayeredSettings/Log/Event.lean

Log events and computations that emit them.  `Run` pairs the events with an
outcome, which is a result or a failure; the events of a failing computation are
kept, so what was logged before a failure can be stated of the value itself.
-/
import LayeredSettings.Value

namespace LayeredSettings

namespace Log

/-- How serious an event is. -/
inductive Severity where
  | debug
  | info
  | warning
  | error
  | critical
  deriving DecidableEq, Inhabited

/-- The name of a severity in a record. -/
def Severity.name : Severity → String
  | .debug => "debug"
  | .info => "info"
  | .warning => "warning"
  | .error => "error"
  | .critical => "critical"

/-- The standard level of a severity. -/
def Severity.level : Severity → Int
  | .debug => 10
  | .info => 20
  | .warning => 30
  | .error => 40
  | .critical => 50

/-- Something that happened, with details. -/
structure Event where
  severity : Severity
  name : String
  fields : Table
  deriving DecidableEq, Inhabited

end Log

/-- The events of a computation, in order, and its outcome. -/
structure Run (ε α : Type) where
  events : List Log.Event
  outcome : Except ε α

namespace Run

variable {ε α β : Type}

/-- A result without events. -/
def ok (a : α) : Run ε α := ⟨[], .ok a⟩

/-- A failure without events. -/
def fail (e : ε) : Run ε α := ⟨[], .error e⟩

/-- One event. -/
def emit (severity : Log.Severity) (name : String) (fields : Table) : Run ε Unit :=
  ⟨[⟨severity, name, fields⟩], .ok ()⟩

/-- An outcome without events. -/
def ofExcept (x : Except ε α) : Run ε α := ⟨[], x⟩

/-- One computation after the other; a failure ends both. -/
def bind (x : Run ε α) (f : α → Run ε β) : Run ε β :=
  match x.outcome with
  | .ok a => ⟨x.events ++ (f a).events, (f a).outcome⟩
  | .error e => ⟨x.events, .error e⟩

instance : Monad (Run ε) where
  pure := ok
  bind := bind

@[simp] theorem pure_eq (a : α) : (pure a : Run ε α) = ok a := rfl

@[simp] theorem bind_eq (x : Run ε α) (f : α → Run ε β) : x >>= f = x.bind f := rfl

@[simp] theorem bind_ok (a : α) (f : α → Run ε β) : (ok a : Run ε α).bind f = f a := by
  simp [bind, ok]

end Run

end LayeredSettings
