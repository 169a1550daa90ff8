import SecureExchange.Exchange.Basic
import SecureExchange.Number.Parse

/-!
# Configuring an exchange

`Exchange.start` checks target, verb and timeout in this order and opens a handle. The setters
change one part each, as long as nothing was sent.
-/

namespace SecureExchange

open Failure

/-- How long to wait for a reply unless told otherwise. -/
def defaultReadTimeout : Binary64 := .ofNat 240

inductive TimeoutFault
  | negative (given : Number)
  | tooLarge
  deriving DecidableEq

/-- The timeout that a number stands for. -/
def readTimeoutOf (given : Number) : Except TimeoutFault Binary64 :=
  match given with
  | .whole i =>
    if i < 0 then .error (.negative given)
    else match Binary64.ofInt? i with
      | some x => .ok x
      | none => .error .tooLarge
  | .binary x => if x.isNegative then .error (.negative given) else .ok x

/-- Raised in place of the text of a whole number that has too many digits. -/
def unwritableNumber : Fault :=
  .invalidValue ("Exceeds the limit (" ++ toString Number.maxDigits
    ++ " digits) for integer string conversion; use sys.set_int_max_str_digits() to increase the "
    ++ "limit")

def TimeoutFault.failure : TimeoutFault → Failure
  | .negative given =>
    let shown := Datum.ofNumber given
    if given.hasText then
      .classified (.ofClass .invalidArgument
        (some ("Read timeout must be non-negative, got " ++ shown.display)) none
        [("read_timeout", shown)])
    else .fault unwritableNumber
  | .tooLarge => .fault (.overflow "int too large to convert to float")

/-- Why a value is not the target of an exchange. -/
inductive TargetFault
  | malformed (f : Fault)
  | otherScheme (scheme : String)
  | noHost (shown : String)
  | raw (f : Fault)

namespace Exchange

open Address

def secureScheme : String := "https"

def wrongType (given : Datum) : Fault :=
  .invalidType ("Invalid type for url.  Expected str or httpx.URL, got <class '" ++ given.typeName
    ++ "'>: " ++ given.literal)

def targetOfText (s : String) : Except TargetFault Target :=
  match Target.parse s.toList with
  | .error e => .error (.malformed e.toFault)
  | .ok t =>
    if t.scheme ≠ secureScheme.toList then .error (.otherScheme (String.ofList t.scheme))
    else match t.readableHost with
      | .error e => .error (.raw e.toFault)
      | .ok host =>
        if host.isEmpty then
          match Redaction.addressText s with
          | .error e => .error (.raw e.toFault)
          | .ok shown => .error (.noHost shown)
        else .ok t

/-- The target that a value names: a text with the secure scheme and a host. -/
def targetOf (given : Datum) : Except TargetFault Target :=
  match given with
  | .text s => targetOfText s
  | _ => .error (.malformed (wrongType given))

/-- Records why a value is no target. -/
def recordTargetFault (f : TargetFault) (j : Journal) : FailureId × Journal :=
  let plain (message : String) (details : OrderedMap String Datum) :=
    j.record (.classified (.ofClass .invalidTarget (some message) none details)) none
  match f with
  | .malformed f =>
    let (bare, j) := j.record (.fault f) none
    let e := Classified.ofClass .invalidTarget (some ("Malformed request target: " ++ f.text))
      (some (j.failures.wrapping bare)) []
    j.record (.classified e) (some bare)
  | .otherScheme scheme =>
    plain ("Expected URL that uses protocol HTTPS but received one that uses protocol '" ++ scheme
      ++ "'") [("scheme", .text scheme)]
  | .noHost shown => plain ("Request target has no host: " ++ shown) []
  | .raw f => j.record (.fault f) none

/-- Records that a handle could not be opened. A failure of input or output is wrapped, any other
stands as it is. -/
def recordOpenFailure (target : Target) (id : FailureId) (j : Journal) : FailureId × Journal :=
  match j.failures.class? id with
  | some c =>
    if c.isInputOutput then
      match Redaction.addressText target.text with
      | .error e => j.record (.fault e.toFault) (some id)
      | .ok shown =>
        let e := Classified.ofClass .retryableConnection
          (some ("Unable to open connection to " ++ shown)) (some (j.failures.wrapping id)) []
        j.record (.classified e) (some id)
    else (id, j)
  | none => (id, j)

/-- A failure to start, and what is recorded until then. -/
structure Refusal where
  failure : FailureId
  network : Network
  journal : Journal

/-- What an exchange starts from: the target, the verb, and optionally how long to wait. -/
structure Proposal where
  target : Datum
  verb : Datum
  readTimeout : Option Number

def startTimeout (p : Proposal) : Except TimeoutFault Binary64 :=
  match p.readTimeout with
  | none => .ok defaultReadTimeout
  | some given => readTimeoutOf given

def start (p : Proposal) (n : Network) (j : Journal) (unredacted : Bool) :
    Except Refusal Exchange :=
  let refuse (r : FailureId × Journal) : Except Refusal Exchange := .error ⟨r.1, n, r.2⟩
  match targetOf p.target with
  | .error f => refuse (recordTargetFault f j)
  | .ok target =>
    match Verb.ofDatum? p.verb with
    | none =>
      let (id, g) := Verb.refuse p.verb j.failures
      refuse (id, { j with failures := g })
    | some verb =>
      match startTimeout p with
      | .error f => refuse (j.record f.failure none)
      | .ok readTimeout =>
        match n.openHandle none with
        | (.error id, n) =>
          let (id, j) := recordOpenFailure target id j
          .error ⟨id, n, j⟩
        | (.ok (), n) => .ok {
            target := target
            verb := verb
            fields := .empty
            body := []
            readTimeout := readTimeout
            tlsContext := none
            phase := .configured
            channel := none
            isDrained := false
            network := n
            journal := j
            unredacted := unredacted }

/-! ### Setters -/

def setVerbConfigured (given : Datum) (x : Exchange) : Outcome Unit × Exchange :=
  match Verb.ofDatum? given with
  | none =>
    let (id, g) := Verb.refuse given x.journal.failures
    let x := { x with journal := { x.journal with failures := g } }
    let details := match g.classified? id with
      | some e => e.details
      | none => []
    x.raise (.classified (.ofClass .invalidState (some (g.text id)) (some (g.wrapping id)) details))
      (some id)
  | some verb =>
    if !x.body.isEmpty && !verb.allowsBody then
      x.refuse .invalidState
        "Cannot change the request method from POST or PUT when the request body is non-empty"
        [("from_method", .text x.verb.token), ("to_method", .text verb.token)]
    else (.ok (), { x with verb := verb })

/-- A staged body stays with a verb that allows one. -/
def setVerb (x : Exchange) (given : Datum) : Outcome Unit × Exchange :=
  x.whileConfigured "set method" (setVerbConfigured given)

/-- The last value written for a name wins. -/
def setField (x : Exchange) (name value : String) : Outcome Unit × Exchange :=
  x.whileConfigured "set header" fun x ↦
    match x.fields.set name value with
    | .error e => x.raiseFault (.unencodable e.message)
    | .ok fields => (.ok (), { x with fields := fields })

/-- The number is checked at any time, but changes nothing once the request was sent. -/
def setReadTimeout (x : Exchange) (given : Number) : Outcome Unit × Exchange :=
  match readTimeoutOf given with
  | .error f => x.raise f.failure none
  | .ok seconds =>
    if x.phase = .configured then (.ok (), { x with readTimeout := seconds })
    else (.ok (), x.log .debug "devicelink.https.read_timeout_ignored"
      [("state", .text x.phase.name), ("read_timeout", .float seconds)])

/-- Only verbs that allow a body take one. To stage nothing for another verb changes nothing. -/
def writeBody (x : Exchange) (body : Octets) : Outcome Unit × Exchange :=
  x.whileConfigured "write body" fun x ↦
    if x.verb.allowsBody then (.ok (), { x with body := body })
    else if body.isEmpty then (.ok (), x)
    else x.refuse .invalidState
      "Cannot write a body to a request that is not a POST or a PUT request"
      [("method", .text x.verb.token), ("body_length", .int body.length)]

/-- Closes the current handle and opens another one with the context. -/
def reopen (x : Exchange) (context : String) : Outcome Unit × Exchange :=
  match x.network.closeHandle.openHandle (some context) with
  | (.ok (), n) => (.ok (), { x with tlsContext := some context, network := n })
  | (.error id, n) =>
    let (id, j) := recordOpenFailure x.target id x.journal
    (.error id, { x with tlsContext := some context, network := n, journal := j })

def setTlsContext (x : Exchange) (context : Option String) : Outcome Unit × Exchange :=
  match context with
  | none => x.refuse .invalidArgument "SSL context cannot be None" []
  | some context =>
    x.whileConfigured "set TLS context" fun x ↦
      if x.network.custom then
        x.refuse .invalidState
          ("Cannot set TLS context on a request with a custom transport; "
            ++ "configure TLS on the transport instead")
          [("operation", .text "set TLS context"), ("transport", .text "MockTransport")]
      else x.reopen context

end Exchange

end SecureExchange
