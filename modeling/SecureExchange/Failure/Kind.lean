/-!
# Kinds of failure

The closed table of conditions that a failure can be classified as. Each kind belongs to a family,
has a code of its own, and is presumed transient or not.
-/

namespace SecureExchange.Failure

/-- A family of kinds shares the class of error that reports it. -/
inductive Family
  | transport
  | target
  | state
  | argument
  | connection
  | protocol
  deriving DecidableEq, Repr

inductive Kind
  | transport
  | security
  | invalidTarget
  | invalidState
  | invalidArgument
  | connection
  | protocol
  | httpStatus
  | amqpInternalError
  | amqpNotFound
  | amqpUnauthorizedAccess
  | amqpDecodeError
  | amqpResourceLimitExceeded
  | amqpNotAllowed
  | amqpInvalidField
  | amqpNotImplemented
  | amqpResourceLocked
  | amqpPreconditionFailed
  | amqpResourceDeleted
  | amqpIllegalState
  | amqpFrameSizeTooSmall
  | amqpConnectionForced
  | amqpFramingError
  | amqpConnectionRedirect
  | amqpSessionWindowViolation
  | amqpSessionErrantLink
  | amqpSessionHandleInUse
  | amqpSessionUnattachedHandle
  | amqpLinkDetachForced
  | amqpLinkTransferLimitExceeded
  | amqpLinkMessageSizeExceeded
  | amqpLinkRedirect
  | amqpLinkStolen
  deriving DecidableEq, Repr

structure Kind.Entry where
  name : String
  family : Family
  code : String
  retryable : Bool

namespace Family

def name : Family → String
  | .transport => "transport"
  | .target => "target"
  | .state => "state"
  | .argument => "argument"
  | .connection => "connection"
  | .protocol => "protocol"

end Family

namespace Kind

def entry : Kind → Entry
  | .transport => ⟨"TRANSPORT", .transport, "devicelink:transport/error", false⟩
  | .security => ⟨"SECURITY", .transport, "devicelink:transport/security", false⟩
  | .invalidTarget => ⟨"INVALID_TARGET", .target, "devicelink:transport/invalid_target", false⟩
  | .invalidState => ⟨"INVALID_STATE", .state, "devicelink:transport/invalid_state", false⟩
  | .invalidArgument =>
    ⟨"INVALID_ARGUMENT", .argument, "devicelink:transport/invalid_argument", false⟩
  | .connection => ⟨"CONNECTION", .connection, "devicelink:transport/connection", true⟩
  | .protocol => ⟨"PROTOCOL", .protocol, "devicelink:protocol/error", false⟩
  | .httpStatus => ⟨"HTTP_STATUS", .protocol, "devicelink:protocol/http_status", false⟩
  | .amqpInternalError => ⟨"AMQP_INTERNAL_ERROR", .protocol, "amqp:internal-error", true⟩
  | .amqpNotFound => ⟨"AMQP_NOT_FOUND", .protocol, "amqp:not-found", false⟩
  | .amqpUnauthorizedAccess =>
    ⟨"AMQP_UNAUTHORIZED_ACCESS", .protocol, "amqp:unauthorized-access", false⟩
  | .amqpDecodeError => ⟨"AMQP_DECODE_ERROR", .protocol, "amqp:decode-error", false⟩
  | .amqpResourceLimitExceeded =>
    ⟨"AMQP_RESOURCE_LIMIT_EXCEEDED", .protocol, "amqp:resource-limit-exceeded", true⟩
  | .amqpNotAllowed => ⟨"AMQP_NOT_ALLOWED", .protocol, "amqp:not-allowed", false⟩
  | .amqpInvalidField => ⟨"AMQP_INVALID_FIELD", .protocol, "amqp:invalid-field", false⟩
  | .amqpNotImplemented => ⟨"AMQP_NOT_IMPLEMENTED", .protocol, "amqp:not-implemented", false⟩
  | .amqpResourceLocked => ⟨"AMQP_RESOURCE_LOCKED", .protocol, "amqp:resource-locked", false⟩
  | .amqpPreconditionFailed =>
    ⟨"AMQP_PRECONDITION_FAILED", .protocol, "amqp:precondition-failed", false⟩
  | .amqpResourceDeleted => ⟨"AMQP_RESOURCE_DELETED", .protocol, "amqp:resource-deleted", false⟩
  | .amqpIllegalState => ⟨"AMQP_ILLEGAL_STATE", .protocol, "amqp:illegal-state", false⟩
  | .amqpFrameSizeTooSmall =>
    ⟨"AMQP_FRAME_SIZE_TOO_SMALL", .protocol, "amqp:frame-size-too-small", false⟩
  | .amqpConnectionForced => ⟨"AMQP_CONNECTION_FORCED", .protocol, "amqp:connection:forced", true⟩
  | .amqpFramingError => ⟨"AMQP_FRAMING_ERROR", .protocol, "amqp:connection:framing-error", false⟩
  | .amqpConnectionRedirect =>
    ⟨"AMQP_CONNECTION_REDIRECT", .protocol, "amqp:connection:redirect", false⟩
  | .amqpSessionWindowViolation =>
    ⟨"AMQP_SESSION_WINDOW_VIOLATION", .protocol, "amqp:session:window-violation", false⟩
  | .amqpSessionErrantLink =>
    ⟨"AMQP_SESSION_ERRANT_LINK", .protocol, "amqp:session:errant-link", false⟩
  | .amqpSessionHandleInUse =>
    ⟨"AMQP_SESSION_HANDLE_IN_USE", .protocol, "amqp:session:handle-in-use", false⟩
  | .amqpSessionUnattachedHandle =>
    ⟨"AMQP_SESSION_UNATTACHED_HANDLE", .protocol, "amqp:session:unattached-handle", false⟩
  | .amqpLinkDetachForced => ⟨"AMQP_LINK_DETACH_FORCED", .protocol, "amqp:link:detach-forced", true⟩
  | .amqpLinkTransferLimitExceeded =>
    ⟨"AMQP_LINK_TRANSFER_LIMIT_EXCEEDED", .protocol, "amqp:link:transfer-limit-exceeded", false⟩
  | .amqpLinkMessageSizeExceeded =>
    ⟨"AMQP_LINK_MESSAGE_SIZE_EXCEEDED", .protocol, "amqp:link:message-size-exceeded", false⟩
  | .amqpLinkRedirect => ⟨"AMQP_LINK_REDIRECT", .protocol, "amqp:link:redirect", false⟩
  | .amqpLinkStolen => ⟨"AMQP_LINK_STOLEN", .protocol, "amqp:link:stolen", false⟩

def name (k : Kind) : String := k.entry.name

def family (k : Kind) : Family := k.entry.family

def code (k : Kind) : String := k.entry.code

/-- Whether resending the same request unchanged is presumed to help. -/
def retryable (k : Kind) : Bool := k.entry.retryable

/-- Every kind, in the order of the table. -/
def all : List Kind :=
  [.transport, .security, .invalidTarget, .invalidState, .invalidArgument, .connection, .protocol,
   .httpStatus, .amqpInternalError, .amqpNotFound, .amqpUnauthorizedAccess, .amqpDecodeError,
   .amqpResourceLimitExceeded, .amqpNotAllowed, .amqpInvalidField, .amqpNotImplemented,
   .amqpResourceLocked, .amqpPreconditionFailed, .amqpResourceDeleted, .amqpIllegalState,
   .amqpFrameSizeTooSmall, .amqpConnectionForced, .amqpFramingError, .amqpConnectionRedirect,
   .amqpSessionWindowViolation, .amqpSessionErrantLink, .amqpSessionHandleInUse,
   .amqpSessionUnattachedHandle, .amqpLinkDetachForced, .amqpLinkTransferLimitExceeded,
   .amqpLinkMessageSizeExceeded, .amqpLinkRedirect, .amqpLinkStolen]

def ofCode? (code : String) : Option Kind := all.find? (·.code == code)

def ofName? (name : String) : Option Kind := all.find? (·.name == name)

theorem mem_all (k : Kind) : k ∈ all := by
  cases k <;> decide

theorem code_eq_of_ofCode? {code : String} {k : Kind} (h : ofCode? code = some k) :
    k.code = code := by
  simpa using List.find?_some h

end Kind

end SecureExchange.Failure
