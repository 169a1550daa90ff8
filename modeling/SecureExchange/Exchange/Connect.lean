import SecureExchange.Exchange.Channel

/-!
# Connecting

The request is built, announced in the log, and handed to the current handle. A documented failure
of the client closes the exchange; any other failure leaves it as it is.
-/

namespace SecureExchange.Exchange

open Failure Address

/-- Why the request that a reply asks for cannot be made: its location, or the rest of it. -/
inductive MoveFault
  | location (f : Redirect.Fault)
  | request (f : BuildFault)

/-- The fault, and the one that is being handled when it is raised. -/
def MoveFault.toFaults : MoveFault → Fault × Option Fault
  | .location f => f.toFaults
  | .request f => (f.toFault, none)

/-- Refuses what a reply asks for. The stream of the reply is closed, and a failure to close it
wins. -/
def refuseMove {α : Type} (x : Exchange) (r : Reply) (f : MoveFault) :
    Outcome α × Exchange :=
  let (fault, handled) := f.toFaults
  let (handling, j) := match handled with
    | none => (none, x.journal)
    | some h =>
      let (id, j) := x.journal.record (.fault h) none
      (some id, j)
  let (id, j) := j.record (.fault fault) handling
  let x := { x with journal := j, network := x.network.countClose }
  match r.closeFailure with
  | none => (.error id, x)
  | some closing => x.raiseAgain closing (some id)

/-- Whether the request that a reply asks for at a location can be made. It is not sent. -/
def checkMove (x : Exchange) (sent : Request) (r : Reply) (location : String) :
    Except MoveFault Unit :=
  match Redirect.resolve x.target location.toList with
  | .error f => .error (.location f)
  | .ok there =>
    match Request.addCookies (x.network.cookies there) there
        (sent.movedFields r.status there) with
    | .error f => .error (.request f)
    | .ok _ => .ok ()

/-- Takes in the reply, unless it asks for a request at another location that cannot be made. -/
def receive (x : Exchange) (sent : Request) (r : Reply) : Outcome Reply × Exchange :=
  match r.location? with
  | none => (.ok r, x)
  | some location =>
    match x.checkMove sent r location with
    | .ok () => (.ok r, x)
    | .error f => x.refuseMove r f

/-- Takes in the reply to a request. The fields of the request are listed once more for what the
reply asks to be kept, and fields that cannot be listed fail. -/
def receiveFor (x : Exchange) (sent : Request) (r : Reply) : Outcome Reply × Exchange :=
  match listFields (charsetOf sent.fields) sent.fields with
  | .error f => x.raiseFault f.toFault
  | .ok _ => { x with network := x.network.keep sent.target r }.receive sent r

/-- Hands the request to the current handle, which delivers it and answers a reply or a failure. -/
def transmit (x : Exchange) (r : Request) : Outcome Reply × Exchange :=
  match x.network.usable? with
  | none => x.raiseFault .closedClient
  | some handle =>
    let answer := x.network.script.next
    let x := { x with network := x.network.deliver r.authorize handle.trust }
    match answer with
    | .refusal id => (.error id, x)
    | .reply reply => x.receiveFor r.authorize reply

/-- The class and the text of a failure, as log events show them. -/
def failureEntries (x : Exchange) (id : FailureId) : OrderedMap String Datum :=
  [("error", .text (match x.journal.failures.class? id with
      | some c => c.name
      | none => "")),
   ("message", .text (x.journal.failures.text id))]

def isHttpFailure (x : Exchange) (id : FailureId) : Bool :=
  match x.journal.failures.class? id with
  | some c => c.isHttpError
  | none => false

def logConnect (x : Exchange) (shown : String) : Exchange :=
  let headers := Redaction.fields x.unredacted
    (x.fields.texts.map fun p ↦ (p.1, Datum.text p.2))
  let x := x.log .debug "devicelink.https.connect"
    [("method", .text x.verb.token), ("url", .text shown), ("headers", .map headers),
     ("body_length", .int x.body.length)]
  { x with fields := x.fields.settled }

/-- What follows the answer to the request. -/
def finishConnect (shown : String) : Outcome Reply × Exchange → Outcome Unit × Exchange
  | (.ok r, x) =>
    let x := { x with phase := .connected, channel := some ⟨r, false⟩ }
    (.ok (), x.log .debug "devicelink.https.connected"
      [("method", .text x.verb.token), ("url", .text shown), ("status", .int r.status)])
  | (.error id, x) =>
    if x.isHttpFailure id then
      let x := x.log .warning "devicelink.https.connect_failed"
        ([("method", .text x.verb.token), ("url", .text shown)] ++ x.failureEntries id)
      match x.closeDuring (some id) with
      | (.error closing, x) => (.error closing, x)
      | (.ok (), x) => (.error id, x)
    else (.error id, x)

def connectConfigured (x : Exchange) : Outcome Unit × Exchange :=
  match Request.build x.verb x.target x.fields.entries x.body x.readTimeout
      (x.network.cookies x.target) with
  | .error f => x.raiseFault f.toFault
  | .ok request =>
    match x.shownAddress with
    | .error e => x.raiseFault e.toFault
    | .ok shown => finishConnect shown ((x.logConnect shown).transmit request)

def connect (x : Exchange) : Outcome Unit × Exchange :=
  x.whileConfigured "connect" connectConfigured

end SecureExchange.Exchange
