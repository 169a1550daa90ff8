import SecureExchange.Datum
import SecureExchange.Failure.Kind

/-!
# Classified errors

Every failure that callers see is an error of one of eight classes. It carries a kind from the
table, a message, an optional lower-level failure that it wraps, details, and whether a retry is
presumed to help. An error of an unknown wire condition reports that condition as its code.
-/

namespace SecureExchange.Failure

/-- The place of a failure among those recorded. -/
abbrev FailureId := Nat

inductive ErrorClass
  | transport
  | invalidTarget
  | invalidState
  | invalidArgument
  | retryableConnection
  | protocol
  | amqpFraming
  | unknownCondition
  deriving DecidableEq, Repr

namespace ErrorClass

def all : List ErrorClass :=
  [.transport, .invalidTarget, .invalidState, .invalidArgument, .retryableConnection, .protocol,
   .amqpFraming, .unknownCondition]

def name : ErrorClass → String
  | .transport => "TransportError"
  | .invalidTarget => "InvalidTargetError"
  | .invalidState => "InvalidStateError"
  | .invalidArgument => "InvalidArgumentError"
  | .retryableConnection => "RetryableConnectionError"
  | .protocol => "ProtocolError"
  | .amqpFraming => "AmqpFramingError"
  | .unknownCondition => "UnknownProtocolCondition"

def ofName? (name : String) : Option ErrorClass := all.find? (·.name == name)

/-- The class itself and the classes it extends, up to the most general one. -/
def ancestry : ErrorClass → List ErrorClass
  | .transport => [.transport]
  | .protocol => [.protocol, .transport]
  | .amqpFraming => [.amqpFraming, .protocol, .transport]
  | .unknownCondition => [.unknownCondition, .protocol, .transport]
  | c => [c, .transport]

def isProtocol (c : ErrorClass) : Bool := c.ancestry.contains .protocol

def defaultKind : ErrorClass → Kind
  | .transport => .transport
  | .invalidTarget => .invalidTarget
  | .invalidState => .invalidState
  | .invalidArgument => .invalidArgument
  | .retryableConnection => .connection
  | .protocol | .unknownCondition => .protocol
  | .amqpFraming => .amqpFramingError

/-- The class whose constructor an error of this class is built with. -/
def constructor : ErrorClass → ErrorClass
  | .protocol | .amqpFraming => .protocol
  | .unknownCondition => .unknownCondition
  | _ => .transport

end ErrorClass

structure Classified where
  cls : ErrorClass
  kind : Kind
  /-- The wire condition, for errors of an unknown one. The peer may have left it empty. -/
  condition : Option (Option String)
  message : String
  wrapped : Option FailureId
  details : OrderedMap String Datum
  retryable : Bool

namespace Classified

/-- The code for diagnostics: the unknown condition, or the code of the kind. -/
def code (e : Classified) : Option String := e.condition.getD (some e.kind.code)

/-- What an error tells of itself where it is written out. -/
def report (e : Classified) : OrderedMap String Datum :=
  [("code", .ofText? e.code), ("message", .text e.message), ("retryable", .bool e.retryable),
   ("details", .map e.details)]

/-- A failure to wrap, with its text. -/
structure Wrapping where
  id : FailureId
  text : String

/-- Without a message the code speaks for the error, followed by the text of what it wraps. -/
def defaultMessage (code : String) : Option Wrapping → String
  | none => code
  | some w => code ++ ": " ++ w.text

def make (cls : ErrorClass) (kind : Kind) (message : Option String) (wrapped : Option Wrapping)
    (retryable : Option Bool) (details : OrderedMap String Datum) : Classified where
  cls := cls
  kind := kind
  condition := none
  message := message.getD (defaultMessage kind.code wrapped)
  wrapped := wrapped.map (·.id)
  details := details
  retryable := retryable.getD kind.retryable

/-- An error of the class's own kind. -/
def ofClass (cls : ErrorClass) (message : Option String) (wrapped : Option Wrapping)
    (details : OrderedMap String Datum) : Classified :=
  make cls cls.defaultKind message wrapped none details

/-- A condition speaks for the error as a code does. One that was left empty does so only in front
of a wrapped failure. -/
def conditionMessage (condition : Option String) (wrapped : Option Wrapping) : String :=
  match condition, wrapped with
  | some c, w => defaultMessage c w
  | none, none => Kind.protocol.code
  | none, w => defaultMessage Datum.null.display w

/-- The condition is the first of the details; a detail of that name replaces it there. -/
def ofCondition (condition : Option String) (message : Option String) (wrapped : Option Wrapping)
    (details : OrderedMap String Datum) : Classified where
  cls := .unknownCondition
  kind := .protocol
  condition := some condition
  message := message.getD (conditionMessage condition wrapped)
  wrapped := wrapped.map (·.id)
  details := OrderedMap.update [("condition", .ofText? condition)] details
  retryable := Kind.protocol.retryable

/-- The error for a condition received from an AMQP peer. -/
def ofAmqp (condition : Option String) (message : Option String) (wrapped : Option Wrapping) :
    Classified :=
  match condition.bind Kind.ofCode? with
  | some kind =>
    if kind.family = .protocol then
      let cls := if kind = .amqpFramingError then .amqpFraming else .protocol
      make cls kind message wrapped none []
    else ofCondition condition message wrapped []
  | none => ofCondition condition message wrapped []

@[simp] theorem code_make (cls : ErrorClass) (kind : Kind) (m : Option String)
    (w : Option Wrapping) (r : Option Bool) (d : OrderedMap String Datum) :
    (make cls kind m w r d).code = some kind.code := rfl

@[simp] theorem code_ofCondition (c : Option String) (m : Option String) (w : Option Wrapping)
    (d : OrderedMap String Datum) : (ofCondition c m w d).code = c := rfl

/-- What an error is built from by name. An absent field and an empty one are different. -/
structure Arguments where
  message : Option (Option String)
  retryable : Option (Option Bool)
  details : Option (OrderedMap String Datum)
  condition : Option (Option String)
  wrapped : Option (Option Wrapping)
  kind : Option (Option Kind)

inductive BuildError
  | unexpectedArgument (owner : ErrorClass) (argument : String)
  | kindOfOtherFamily (kind : Kind)
  deriving DecidableEq

def BuildError.message : BuildError → String
  | .unexpectedArgument owner argument =>
    owner.name ++ ".__init__() got an unexpected keyword argument '" ++ argument ++ "'"
  | .kindOfOtherFamily kind => kind.name ++ " is not a protocol error kind"

/-- The first argument that the class has no use for. -/
def unexpected? (cls : ErrorClass) (a : Arguments) : Option String :=
  match cls with
  | .unknownCondition =>
    if a.retryable.isSome then some "retryable" else if a.kind.isSome then some "kind" else none
  | _ => if a.condition.isSome then some "condition" else none

def build (cls : ErrorClass) (a : Arguments) : Except BuildError Classified :=
  match unexpected? cls a with
  | some argument => .error (.unexpectedArgument cls.constructor argument)
  | none =>
    let message := a.message.join
    let wrapped := a.wrapped.join
    let details := a.details.getD []
    match cls with
    | .unknownCondition =>
      .ok (ofCondition (a.condition.getD (some Kind.protocol.code)) message wrapped details)
    | cls =>
      let kind := a.kind.join.getD cls.defaultKind
      if cls.isProtocol ∧ kind.family ≠ .protocol then .error (.kindOfOtherFamily kind)
      else .ok (make cls kind message wrapped a.retryable.join details)

end Classified

end SecureExchange.Failure
