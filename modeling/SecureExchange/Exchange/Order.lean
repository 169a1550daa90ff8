import SecureExchange.Exchange.Configure
import SecureExchange.Exchange.Connect

/-!
# Orders

An order describes a request as a value. Sending it drives one exchange from start to end, and maps
the documented failures of the client to classified errors.
-/

namespace SecureExchange

open Failure EventLog

structure Order where
  proposal : Exchange.Proposal
  /-- The address as it was given. -/
  address : String
  body : Octets
  fields : OrderedMap String String
  tlsContext : Option String

structure Response where
  status : Int
  body : Octets
  fields : OrderedMap String (List String)
  errorReason : Octets
  deriving DecidableEq, Repr

namespace Response

def isSuccess (r : Response) : Bool := decide (r.status < Reply.errorStatus)

/-- The first value under a name, which is looked up in small letters. -/
def first? (r : Response) (name : String) : Option String :=
  match OrderedMap.get? (Text.lower name) r.fields with
  | some values => values.head?
  | none => none

end Response

namespace Exchange

def setFields (x : Exchange) : List (String × String) → Outcome Unit × Exchange
  | [] => (.ok (), x)
  | (name, value) :: rest =>
    match x.setField name value with
    | (.error id, x) => (.error id, x)
    | (.ok (), x) => x.setFields rest

/-- Fields, body and context of the order, in this order. -/
def prepare (x : Exchange) (o : Order) : Outcome Unit × Exchange :=
  match x.setFields o.fields with
  | (.error id, x) => (.error id, x)
  | (.ok (), x) =>
    match x.writeBody o.body with
    | (.error id, x) => (.error id, x)
    | (.ok (), x) =>
      match o.tlsContext with
      | none => (.ok (), x)
      | some context => x.setTlsContext (some context)

/-- Reads the content, as body or as error reason. -/
def collect (x : Exchange) (status : Int) (fields : OrderedMap String (List String)) :
    Outcome Response × Exchange :=
  if status < Reply.errorStatus then
    match x.readBody with
    | (.error id, x) => (.error id, x)
    | (.ok body, x) => (.ok ⟨status, body, fields, []⟩, x)
  else
    match x.readErrorBody with
    | (.error id, x) => (.error id, x)
    | (.ok reason, x) => (.ok ⟨status, [], fields, reason⟩, x)

def perform (x : Exchange) : Outcome Response × Exchange :=
  match x.connect with
  | (.error id, x) => (.error id, x)
  | (.ok (), x) =>
    match x.status with
    | (.error id, x) => (.error id, x)
    | (.ok status, x) =>
      match x.replyFields with
      | (.error id, x) => (.error id, x)
      | (.ok fields, x) => x.collect status fields

def orderLogger : String := "devicelink.transport.request"

def logOrder (x : Exchange) (level : Level) (name : String) (fields : OrderedMap String Datum) :
    Exchange :=
  { x with journal := x.journal.log ⟨level, orderLogger, name, fields⟩ }

/-- Fails with the classified error for a failure, which is handled meanwhile. -/
def raiseClassified {α : Type} (x : Exchange) (address : String) (id : FailureId) :
    Outcome α × Exchange :=
  let (classified, g) := x.journal.failures.classify id (some id)
  let x := { x with journal := { x.journal with failures := g } }
  match Redaction.addressText address with
  | .error e => x.raise (.fault e.toFault) (some id)
  | .ok shown =>
    let verdict := g.retryDecision classified
    (.error classified, x.logOrder .warning "devicelink.https.send_failed"
      [("method", .text x.verb.token), ("url", .text shown), ("code", .ofText? verdict.1),
       ("retryable", .bool verdict.2)])

def performClassified (x : Exchange) (address : String) : Outcome Response × Exchange :=
  match x.perform with
  | (.ok r, x) => (.ok r, x)
  | (.error id, x) =>
    if x.isHttpFailure id then x.raiseClassified address id else (.error id, x)

/-- The order within an exchange that was started for it. -/
def fulfil (x : Exchange) (o : Order) : Outcome Response × Exchange :=
  match x.prepare o with
  | (.error id, x) => (.error id, x)
  | (.ok (), x) => x.performClassified o.address

/-- Ends an order. The exchange is closed in any case, and a failure to close it wins. -/
def settle (address : String) (r : Outcome Response × Exchange) : Outcome Response × Exchange :=
  let (outcome, x) := r
  match x.closeDuring (failure? outcome), outcome with
  | (.error id, x), _ => (.error id, x)
  | (.ok (), x), .error id => (.error id, x)
  | (.ok (), x), .ok response =>
    match Redaction.addressText address with
    | .error e => x.raiseFault e.toFault
    | .ok shown =>
      (.ok response, x.logOrder .debug "devicelink.https.send"
        [("method", .text x.verb.token), ("url", .text shown), ("status", .int response.status)])

end Exchange

namespace Order

def send (o : Order) (n : Network) (j : Journal) (unredacted : Bool) :
    Except Exchange.Refusal (Outcome Response × Exchange) :=
  match Exchange.start o.proposal n j unredacted with
  | .error refusal => .error refusal
  | .ok x => .ok (Exchange.settle o.address (x.fulfil o))

end Order

end SecureExchange
