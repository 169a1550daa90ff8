import SecureExchange.Exchange.Basic

/-!
# Reading replies and closing

The stream of a reply is read at most once, and closed afterwards whether reading succeeded or not.
Closing releases the stream first, then the handle; a stream that fails to close keeps the handle
open.
-/

namespace SecureExchange.Exchange

open Failure

/-- Closes the stream of the reply, if there is one and it is still open. -/
def closeChannel (x : Exchange) (handling : Option FailureId) : Outcome Unit × Exchange :=
  match x.channel with
  | none => (.ok (), x)
  | some c =>
    if c.isClosed then (.ok (), x)
    else
      let x := { x with
        channel := some { c with isClosed := true }
        network := x.network.countClose }
      match c.reply.closeFailure with
      | none => (.ok (), x)
      | some id => x.raiseAgain id handling

/-- Closes stream and handle, while `handling` is being handled. -/
def closeDuring (x : Exchange) (handling : Option FailureId) : Outcome Unit × Exchange :=
  match x.closeChannel handling with
  | (.error id, x) => (.error id, x)
  | (.ok (), x) => (.ok (), { x with network := x.network.closeHandle, phase := .closed })

def close (x : Exchange) : Outcome Unit × Exchange := x.closeDuring none

def failure? {α : Type} : Outcome α → Option FailureId
  | .ok _ => none
  | .error id => some id

/-- Fails with a failure that ended the reading. A stop of iteration would be taken for the end of
the stream, so it is declared the cause of another failure. -/
def raiseFromStream {α : Type} (x : Exchange) (id : FailureId) : Outcome α × Exchange :=
  if ((x.journal.failures.class? id).map (·.isStop)) = some true then
    let (stopped, j) := x.journal.record (.fault .streamStopped) (some id)
    (.error stopped,
      { x with journal := { j with failures := j.failures.declareCause stopped id } })
  else (.error id, x)

/-- Fails for chunks that cannot be decoded. What went wrong is declared the cause. -/
def raiseUndecodable {α : Type} (x : Exchange) (text : String) : Outcome α × Exchange :=
  let (cause, j) := x.journal.record (.fault ⟨.other "error", text⟩) none
  let (id, j) := j.record (.fault (.http .decoding text)) (some cause)
  (.error id, { x with journal := { j with failures := j.failures.declareCause id cause } })

/-- The whole content of the stream, which is closed after its last chunk. Chunks are decoded as
they come, and a failure to decode one leaves the stream open. -/
def readChannel (x : Exchange) (c : Channel) : Outcome Octets × Exchange :=
  if c.isClosed then x.raiseFault .streamClosed
  else match x.network.script.client.content c.reply with
    | .error text => x.raiseUndecodable text
    | .ok content =>
      match c.reply.readFailure with
      | some id => x.raiseFromStream id
      | none =>
        match x.closeChannel none with
        | (.error id, x) => x.raiseFromStream id
        | (.ok (), x) => (.ok content, x)

/-- Reads the stream and closes the exchange. A failure to close wins over one to read. -/
def drain (x : Exchange) (c : Channel) : Outcome Octets × Exchange :=
  if x.isDrained then
    x.raiseFault (.http .read "Response channel was already read and closed")
  else
    let (outcome, x) := x.readChannel c
    match { x with isDrained := true }.closeDuring (failure? outcome) with
    | (.error id, x) => (.error id, x)
    | (.ok (), x) => (outcome, x)

/-- Goes on with the reply, if one was received. -/
def withReply {α : Type} (x : Exchange) (go : Channel → Outcome α × Exchange) :
    Outcome α × Exchange :=
  match x.channel with
  | some c => go c
  | none =>
    match x.shownAddress with
    | .error e => x.raiseFault e.toFault
    | .ok shown => x.raiseFault (.http .read ("No response received from " ++ shown))

/-- A reply of an error status is not read as content. -/
def refuseError {α : Type} (x : Exchange) (r : Reply) : Outcome α × Exchange :=
  match x.shownAddress with
  | .error e => x.raiseFault e.toFault
  | .ok shown => x.raiseFault (.http (.status r.status)
      ("Server returned HTTP status " ++ toString r.status ++ " for " ++ x.verb.token ++ " "
        ++ shown))

def readBody (x : Exchange) : Outcome Octets × Exchange :=
  x.withReply fun c ↦ if c.reply.isError then x.refuseError c.reply else x.drain c

/-- The content of a reply of an error status, and nothing for any other. -/
def readErrorBody (x : Exchange) : Outcome Octets × Exchange :=
  match x.channel with
  | none => (.ok [], x)
  | some c => if c.reply.isError then x.drain c else (.ok [], x)

def status (x : Exchange) : Outcome Int × Exchange :=
  x.withReply fun c ↦ (.ok c.reply.status, x)

def replyFields (x : Exchange) : Outcome (OrderedMap String (List String)) × Exchange :=
  x.withReply fun c ↦ (.ok c.reply.groupedFields, x)

theorem closeChannel_of_none {x : Exchange} (h : x.channel = none) (handling : Option FailureId) :
    x.closeChannel handling = (.ok (), x) := by
  simp [closeChannel, h]

theorem readErrorBody_of_none {x : Exchange} (h : x.channel = none) :
    x.readErrorBody = (.ok [], x) := by
  simp [readErrorBody, h]

end SecureExchange.Exchange
