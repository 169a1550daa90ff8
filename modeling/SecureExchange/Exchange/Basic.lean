import SecureExchange.EventLog.Event
import SecureExchange.Exchange.Network
import SecureExchange.Failure.Address
import SecureExchange.Failure.Classify
import SecureExchange.Redaction.Address
import SecureExchange.Redaction.Fields

/-!
# Exchanges

One exchange of a request and a reply. It is configured, then connected, then closed, and never goes
back. What it does is recorded in a journal: failures in order of occurrence, and log events.

Every operation answers an outcome, a value or the failure that is raised, together with the
exchange as the operation leaves it.
-/

namespace SecureExchange

open Failure EventLog

def ListingFault.toFault : ListingFault → Fault
  | .unencodable e => .unencodable e.message
  | .missing name => .missingKey name

def BuildFault.toFault : BuildFault → Fault
  | .unencodable e => .unencodable e.message
  | .listing f => f.toFault
  | .reference f => f.toFault

inductive Phase
  | configured
  | connected
  | closed
  deriving DecidableEq, Repr

def Phase.name : Phase → String
  | .configured => "configured"
  | .connected => "connected"
  | .closed => "closed"

def Phase.rank : Phase → Nat
  | .configured => 0
  | .connected => 1
  | .closed => 2

abbrev Outcome (α : Type) := Except FailureId α

structure Journal where
  failures : Graph
  events : List Event

namespace Journal

def record (j : Journal) (f : Failure) (handling : Option FailureId) : FailureId × Journal :=
  ((j.failures.record f handling).1, { j with failures := (j.failures.record f handling).2 })

def log (j : Journal) (e : Event) : Journal := { j with events := j.events ++ [e] }

@[simp] theorem events_record (j : Journal) (f : Failure) (h : Option FailureId) :
    (j.record f h).2.events = j.events := rfl

@[simp] theorem failures_log (j : Journal) (e : Event) : (j.log e).failures = j.failures := rfl

end Journal

/-- The stream of a reply. -/
structure Channel where
  reply : Reply
  isClosed : Bool

structure Exchange where
  target : Address.Target
  verb : Verb
  fields : Fields
  body : Octets
  readTimeout : Binary64
  tlsContext : Option String
  phase : Phase
  channel : Option Channel
  /-- The stream was read, or reading it was tried. -/
  isDrained : Bool
  network : Network
  journal : Journal
  /-- Log events show what they would otherwise redact. -/
  unredacted : Bool

namespace Exchange

/-- Fails with a new failure, which occurs while `handling` is being handled. -/
def raise {α : Type} (x : Exchange) (f : Failure) (handling : Option FailureId) :
    Outcome α × Exchange :=
  (.error (x.journal.record f handling).1, { x with journal := (x.journal.record f handling).2 })

def raiseFault {α : Type} (x : Exchange) (f : Fault) : Outcome α × Exchange :=
  x.raise (.fault f) none

/-- Fails with an error of the class's own kind that wraps nothing. -/
def refuse {α : Type} (x : Exchange) (cls : ErrorClass) (message : String)
    (details : OrderedMap String Datum) : Outcome α × Exchange :=
  x.raise (.classified (.ofClass cls (some message) none details)) none

/-- Fails with a recorded failure, which occurs once more while `handling` is being handled. -/
def raiseAgain {α : Type} (x : Exchange) (id : FailureId) (handling : Option FailureId) :
    Outcome α × Exchange :=
  (.error id, { x with
    journal := { x.journal with failures := x.journal.failures.handleDuring id handling } })

def logger : String := "devicelink.transport.https"

def log (x : Exchange) (level : Level) (name : String) (fields : OrderedMap String Datum) :
    Exchange :=
  { x with journal := x.journal.log ⟨level, logger, name, fields⟩ }

/-- The address as messages and log events show it. -/
def shownAddress (x : Exchange) : Except Address.Reference.Fault String :=
  Redaction.addressText x.target.text

/-- Goes on with an exchange that is still being configured. -/
def whileConfigured {α : Type} (x : Exchange) (operation : String)
    (go : Exchange → Outcome α × Exchange) : Outcome α × Exchange :=
  if x.phase = .configured then go x
  else x.refuse .invalidState
    ("Cannot " ++ operation ++ ": request is already " ++ x.phase.name)
    [("operation", .text operation), ("state", .text x.phase.name)]

@[simp] theorem whileConfigured_of_configured {α : Type} {x : Exchange} {operation : String}
    (h : x.phase = .configured) (go : Exchange → Outcome α × Exchange) :
    x.whileConfigured operation go = go x := by
  simp [whileConfigured, h]

@[simp] theorem network_raise {α : Type} (x : Exchange) (f : Failure) (h : Option FailureId) :
    (x.raise (α := α) f h).2.network = x.network := rfl

@[simp] theorem phase_raise {α : Type} (x : Exchange) (f : Failure) (h : Option FailureId) :
    (x.raise (α := α) f h).2.phase = x.phase := rfl

@[simp] theorem network_log (x : Exchange) (l : Level) (n : String)
    (fs : OrderedMap String Datum) : (x.log l n fs).network = x.network := rfl

@[simp] theorem phase_log (x : Exchange) (l : Level) (n : String)
    (fs : OrderedMap String Datum) : (x.log l n fs).phase = x.phase := rfl

end Exchange

end SecureExchange
