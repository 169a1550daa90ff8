import SecureExchange.Datum.Json
import SecureExchange.EventLog.Console
import SecureExchange.EventLog.Event
import SecureExchange.EventLog.Template
import SecureExchange.Redaction.Fields
import SecureExchange.Text.Case

/-!
# Logging

The state of logging in a process: whether it was configured, the handlers and the threshold at the
root, the service that events are attributed to, and how events reach the handlers. Either the
library's own handler renders them, or they are rendered before any handler sees them.
-/

namespace SecureExchange.EventLog

inductive Format
  | json
  | console
  deriving DecidableEq, Repr

def Format.ofText (s : String) : Format := if s = "json" then .json else .console

def Format.render (f : Format) (entries : OrderedMap String Datum) : Except Failure.Fault String :=
  match f with
  | .json => .ok (Datum.map entries).json
  | .console => Console.render entries

/-- A handler at the root: the library's own, which writes lines, or one of the host. -/
inductive Handler
  | stream (f : Format)
  | host
  deriving DecidableEq, Repr

def Handler.isStream : Handler → Bool
  | .stream _ => true
  | .host => false

/-- Where events are rendered. -/
inductive Pipeline
  | inHandlers
  | ahead (f : Format)
  deriving DecidableEq, Repr

abbrev Environment := OrderedMap String String

structure Logging where
  isConfigured : Bool
  handlers : List Handler
  threshold : Nat
  service : Option String
  pipeline : Pipeline
  environment : Environment
  deriving DecidableEq, Repr

namespace Environment

def formatKey : String := "DEVICELINK_LOG_FORMAT"

def levelKey : String := "DEVICELINK_LOG_LEVEL"

def serviceKey : String := "DEVICELINK_SERVICE_NAME"

def debugKey : String := "DEVICELINK_DEBUG"

def assign (key : String) (value : Option String) (env : Environment) : Environment :=
  match value with
  | some v => OrderedMap.insert key v env
  | none => env.filter (·.1 != key)

def isUnredacted (env : Environment) : Bool := Redaction.isOn (OrderedMap.get? debugKey env)

end Environment

/-! ### Thresholds -/

/-- What a name in capitals stands for: a threshold, or a text or other value that is none. -/
inductive LevelMeaning
  | threshold (n : Nat)
  | text (s : String)
  | other (shown : String)
  deriving DecidableEq, Repr

def defaultThreshold : Nat := 20

def messageFormat : String := "%(levelname)s:%(name)s:%(message)s"

/-- The table of ways to write messages, as it is shown when it is taken for a level. -/
def stylesShown : String :=
  "\x7b'%': (<class 'logging.PercentStyle'>, '" ++ messageFormat ++ "'), "
    ++ "'\x7b': (<class 'logging.StrFormatStyle'>, "
    ++ "'\x7blevelname\x7d:\x7bname\x7d:\x7bmessage\x7d'), "
    ++ "'$': (<class 'logging.StringTemplateStyle'>, "
    ++ "'$\x7blevelname\x7d:$\x7bname\x7d:$\x7bmessage\x7d')\x7d"

def levelMeaning (name : String) : LevelMeaning :=
  match name with
  | "NOTSET" => .threshold 0
  | "DEBUG" => .threshold 10
  | "INFO" => .threshold 20
  | "WARN" | "WARNING" => .threshold 30
  | "ERROR" => .threshold 40
  | "FATAL" | "CRITICAL" => .threshold 50
  | "BASIC_FORMAT" => .text messageFormat
  | "_STYLES" => .other stylesShown
  | _ => .threshold defaultThreshold

def capitals (s : String) : String := String.ofList (s.toList.flatMap Text.asciiCapital)

/-- The threshold that a level in capitals stands for. -/
def thresholdOf (level : String) : Except Failure.Fault Nat :=
  match levelMeaning level with
  | .threshold n => .ok n
  | .text s => .error (.invalidValue ("Unknown level: " ++ Text.quoted s))
  | .other shown => .error (.invalidType ("Level not an integer or a valid string: " ++ shown))

/-! ### Configuring -/

/-- What logging is configured with. Format and level may be given as any value. -/
structure Settings where
  format : Datum
  level : Datum
  service : Option String
  force : Bool
  installsHandler : Bool

/-- Nothing is given, and a handler is installed if that is wished. -/
def Settings.standard (installsHandler : Bool) : Settings :=
  ⟨.null, .null, none, false, installsHandler⟩

/-- A setting that is given and counts as true, else the variable of the environment, else a
default. -/
def chosen (given : Datum) (key default : String) (env : Environment) : Datum :=
  if given.isTrue then given else .text ((OrderedMap.get? key env).getD default)

/-- Only texts have letter cases. -/
def recased (operation : String) (change : String → String) (x : Datum) :
    Except Failure.Fault String :=
  match x with
  | .text s => .ok (change s)
  | x => .error (.missingAttribute x.typeName operation)

namespace Logging

/-- Nothing configured, no handlers, warnings and worse. -/
def start (env : Environment) : Logging := ⟨false, [], 30, none, .ahead .console, env⟩

def formatFor (s : Settings) (l : Logging) : Except Failure.Fault Format :=
  (recased "lower" Text.lower (chosen s.format Environment.formatKey "console" l.environment)).map
    Format.ofText

/-- The level in capitals. -/
def levelFor (s : Settings) (l : Logging) : Except Failure.Fault String :=
  recased "upper" capitals (chosen s.level Environment.levelKey "INFO" l.environment)

def serviceFor (s : Settings) (l : Logging) : String :=
  (chosen (.ofText? s.service) Environment.serviceKey defaultService l.environment).display

def bindService (service : String) (l : Logging) : Logging :=
  { l with service := some service, isConfigured := true }

/-- Replaces all handlers by the library's own, and sets the threshold. -/
def install (f : Format) (level service : String) (l : Logging) :
    Except Failure.Fault Unit × Logging :=
  let installed := { l with pipeline := .inHandlers, handlers := [.stream f] }
  match thresholdOf level with
  | .error e => (.error e, installed)
  | .ok n => (.ok (), { installed with threshold := n }.bindService service)

/-- Takes effect if it is forced or the first. -/
def configure (s : Settings) (l : Logging) : Except Failure.Fault Unit × Logging :=
  if l.isConfigured && !s.force then (.ok (), l)
  else match l.formatFor s, l.levelFor s with
    | .error e, _ | .ok _, .error e => (.error e, l)
    | .ok f, .ok level =>
      if s.installsHandler then l.install f level (l.serviceFor s)
      else (.ok (), { l with pipeline := .ahead f }.bindService (l.serviceFor s))

/-- Configures logging on first use. Handlers that are there already are kept. -/
def getLogger (l : Logging) : Except Failure.Fault Unit × Logging :=
  if l.isConfigured then (.ok (), l) else l.configure (.standard l.handlers.isEmpty)

def addHostHandler (l : Logging) : Logging := { l with handlers := l.handlers ++ [.host] }

def assign (key : String) (value : Option String) (l : Logging) : Logging :=
  { l with environment := Environment.assign key value l.environment }

end Logging

/-! ### Events -/

/-- What a logger is given: the level, its own name, the event, and what goes with it. An event of
null is none. -/
structure Entry where
  logger : String
  level : Level
  event : Datum
  bound : OrderedMap String Datum
  fields : OrderedMap String Datum
  arguments : List Datum

inductive Message
  | entries (entries : OrderedMap String Datum)
  | plain (s : String)

structure Record where
  level : Level
  logger : String
  message : Message

/-- What a handler does with a record: the library's own writes a line, a host's takes it. -/
inductive Delivery
  | written (f : Format) (line : String)
  | taken (r : Record)

def rootName : String := "root"

def loggerName (name : String) : String := if name.isEmpty then rootName else name

namespace Entry

def givenTwice (operation name : String) : Failure.Fault :=
  .invalidType (operation ++ "() got multiple values for argument '" ++ name ++ "'")

/-- The names that giving an event takes for itself. -/
def ownNames : List String := ["event", "self"]

def deliveryName : String := "method_name"

/-- A field under a name that an operation takes for itself. -/
def conflict? (e : Entry) : Option Failure.Fault :=
  if OrderedMap.contains "self" e.bound then some (givenTwice "BoundLoggerLazyProxy.bind" "self")
  else match (OrderedMap.keys e.fields).find? (ownNames.contains ·) with
    | some name => some (givenTwice ("BoundLogger." ++ e.level.name) name)
    | none =>
      if OrderedMap.contains deliveryName e.fields then
        some (givenTwice "BoundLogger._proxy_to_logger" deliveryName)
      else none

/-- The entries as they are given, the event last unless it is bound. -/
def given (e : Entry) : OrderedMap String Datum :=
  let entries := OrderedMap.update e.bound e.fields
  match e.event with
  | .null => entries
  | x => OrderedMap.insert "event" x entries

end Entry

/-! ### Completing -/

/-- The entry of a record that comes from elsewhere, which would tell its logger. -/
def recordKey : String := "_record"

/-- The entry that marks records that come from elsewhere. -/
def originKey : String := "_from_structlog"

def argumentsKey : String := "positional_args"

def stackWishKey : String := "stack_info"

/-- Level and logger, and the service unless there is one. -/
def ascribe (service : Option String) (level : Level) (logger : String)
    (entries : OrderedMap String Datum) : OrderedMap String Datum :=
  let entries := match service with
    | some s => OrderedMap.insertIfNew "service" (.text s) entries
    | none => entries
  OrderedMap.insert "logger" (.text logger) (OrderedMap.insert "level" (.text level.name) entries)

def stamp (now : String) (entries : OrderedMap String Datum) : OrderedMap String Datum :=
  OrderedMap.insert "timestamp" (.text now) entries

/-- The entries that every event gets. -/
def complete (service : Option String) (level : Level) (logger now : String)
    (entries : OrderedMap String Datum) : OrderedMap String Datum :=
  stamp now (ascribe service level logger entries)

/-- No value but null can stand for a record. -/
def checkRecord (entries : OrderedMap String Datum) : Except Failure.Fault Unit :=
  match (OrderedMap.get? recordKey entries).getD .null with
  | .null => .ok ()
  | x => .error (.missingAttribute x.typeName "name")

/-- The arguments that an entry stands for. A list of a single map is that map. -/
def argumentsOf (x : Datum) : Except Failure.Fault Template.Arguments :=
  match x with
  | .list [.map (e :: entries)] => .ok (.ofValue (.map (e :: entries)))
  | .map [_] => .error ⟨.missingKey, "0"⟩
  | .text _ | .list _ | .map _ | .null => .ok (.ofValue x)
  | x => .error (.invalidType ("object of type '" ++ x.typeName ++ "' has no len()"))

/-- Arguments in order, or else those of an entry that counts as true. -/
def arguments? (given : List Datum) (entries : OrderedMap String Datum) :
    Except Failure.Fault (Option Template.Arguments) :=
  if !given.isEmpty then .ok (some (.ofList given))
  else match OrderedMap.get? argumentsKey entries with
    | none => .ok none
    | some x => if x.isTrue then (argumentsOf x).map some else .ok none

/-- The event with the arguments written into it. -/
def fillEvent (a : Template.Arguments) (entries : OrderedMap String Datum) :
    Except Failure.Fault (OrderedMap String Datum) :=
  match OrderedMap.get? "event" entries with
  | none => .error (.missingKey "event")
  | some (.text s) =>
    match Template.fill s a with
    | .error f => .error f.toFault
    | .ok filled => .ok (OrderedMap.insert "event" (.text filled) entries)
  | some x =>
    .error (.invalidType ("unsupported operand type(s) for %=: '" ++ x.typeName ++ "' and '"
      ++ a.typeName ++ "'"))

/-- Arguments are dropped once they are used, or if there is nothing in them. -/
def dropArguments (given : List Datum) (entries : OrderedMap String Datum) :
    OrderedMap String Datum :=
  if given.isEmpty && (OrderedMap.get? argumentsKey entries).any (·.isNull) then entries
  else entries.filter (·.1 != argumentsKey)

namespace Logging

/-- The entries of an event: attributed, filled, stamped, and without the wish for a stack. -/
def entriesOf (e : Entry) (now : String) (l : Logging) :
    Except Failure.Fault (OrderedMap String Datum) :=
  let entries := ascribe l.service e.level (loggerName e.logger) e.given
  match checkRecord entries with
  | .error f => .error f
  | .ok () =>
    match arguments? e.arguments entries with
    | .error f => .error f
    | .ok a =>
      let filled : Except Failure.Fault (OrderedMap String Datum) := match a with
        | none => .ok entries
        | some a => fillEvent a entries
      filled.map fun entries ↦
        (stamp now (dropArguments e.arguments entries)).filter (·.1 != stackWishKey)

/-- The record of an event, which is rendered here if handlers do not do it. -/
def recordOf (e : Entry) (entries : OrderedMap String Datum) (l : Logging) :
    Except Failure.Fault Record :=
  let record (m : Message) : Record := ⟨e.level, loggerName e.logger, m⟩
  match l.pipeline with
  | .inHandlers => .ok (record (.entries entries))
  | .ahead f => (f.render entries).map fun line ↦ record (.plain line)

/-- The library's own handler completes what comes from elsewhere as an event of its own, and does
not show where a record comes from. -/
def writtenEntries (r : Record) (now : String) (l : Logging) : OrderedMap String Datum :=
  match r.message with
  | .entries entries => entries.filter fun e ↦ e.1 != recordKey && e.1 != originKey
  | .plain s => complete l.service r.level r.logger now [("event", .text s)]

/-- A record that the library's own handler cannot write is passed over. -/
def deliver (r : Record) (now : String) (l : Logging) : List Delivery :=
  if r.level.severity < l.threshold then []
  else l.handlers.filterMap fun h ↦
    match h with
    | .host => some (.taken r)
    | .stream f =>
      match f.render (l.writtenEntries r now) with
      | .ok line => some (.written f line)
      | .error _ => none

/-- Gives an event to a logger, which is taken anew. It is completed and, where handlers do not do
that, rendered before the threshold is looked at. -/
def log (e : Entry) (now : String) (l : Logging) :
    Except Failure.Fault (List Delivery) × Logging :=
  match l.getLogger with
  | (.error f, l) => (.error f, l)
  | (.ok (), l) =>
    match e.conflict? with
    | some f => (.error f, l)
    | none =>
      match l.entriesOf e now with
      | .error f => (.error f, l)
      | .ok entries => ((l.recordOf e entries).map (l.deliver · now), l)

/-- A record from elsewhere, which does not configure anything. -/
def foreign (logger : String) (level : Level) (event now : String) (l : Logging) :
    List Delivery :=
  l.deliver ⟨level, loggerName logger, .plain event⟩ now

theorem configure_of_configured {l : Logging} {s : Settings} (hl : l.isConfigured = true)
    (hs : s.force = false) : l.configure s = (.ok (), l) := by
  simp [configure, hl, hs]

theorem getLogger_of_configured {l : Logging} (h : l.isConfigured = true) :
    l.getLogger = (.ok (), l) := by
  simp [getLogger, h]

end Logging

end SecureExchange.EventLog
