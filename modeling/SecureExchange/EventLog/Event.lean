import SecureExchange.Datum

/-!
# Log events

An event has a level, the name of the logger that it was given to, a name of its own, and fields.
-/

namespace SecureExchange.EventLog

inductive Level
  | debug
  | info
  | warning
  | error
  | critical
  deriving DecidableEq, Repr

namespace Level

def name : Level → String
  | .debug => "debug"
  | .info => "info"
  | .warning => "warning"
  | .error => "error"
  | .critical => "critical"

def capitals : Level → String
  | .debug => "DEBUG"
  | .info => "INFO"
  | .warning => "WARNING"
  | .error => "ERROR"
  | .critical => "CRITICAL"

def severity : Level → Nat
  | .debug => 10
  | .info => 20
  | .warning => 30
  | .error => 40
  | .critical => 50

end Level

structure Event where
  level : Level
  logger : String
  name : String
  fields : OrderedMap String Datum

/-- The service that events are attributed to unless another one is configured. -/
def defaultService : String := "devicelink"

namespace Event

/-- The event as a log shows it, the time apart. -/
def entries (e : Event) : OrderedMap String Datum :=
  e.fields ++ [("event", .text e.name), ("service", .text defaultService),
    ("level", .text e.level.name), ("logger", .text e.logger)]

end Event

end SecureExchange.EventLog
