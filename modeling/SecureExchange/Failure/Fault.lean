import SecureExchange.Datum

/-!
# Raw faults

What the layers below raise before it is classified: faults of the operating system, of the secure
channel, of the HTTP client, and any other. A fault is known by its class and its text.
-/

namespace SecureExchange.Failure

/-- Faults reported by the operating system or by name resolution. -/
inductive SystemFault
  | any
  | blocking
  | childProcess
  | connection
  | brokenPipe
  | connectionAborted
  | connectionRefused
  | connectionReset
  | fileExists
  | fileNotFound
  | interrupted
  | isADirectory
  | notADirectory
  | permission
  | processLookup
  | timeout
  | addressInfo
  | hostLookup
  deriving DecidableEq, Repr

/-- Faults of the secure channel. -/
inductive TlsFault
  | any
  | certificate
  | endOfStream
  | syscall
  | wantRead
  | wantWrite
  | zeroReturn
  deriving DecidableEq, Repr

/-- Faults of the HTTP client. -/
inductive HttpFault
  | any
  | request
  | transport
  | timeout
  | connectTimeout
  | readTimeout
  | writeTimeout
  | poolTimeout
  | network
  | connect
  | read
  | write
  | close
  | protocol
  | localProtocol
  | remoteProtocol
  | proxy
  | unsupportedProtocol
  | decoding
  | tooManyRedirects
  | status (code : Int)
  | invalidAddress
  | cookieConflict
  | stream
  | streamConsumed
  | streamClosed
  | responseNotRead
  | requestNotRead
  deriving DecidableEq, Repr

inductive FaultClass
  | system (f : SystemFault)
  | tls (f : TlsFault)
  | http (f : HttpFault)
  | missingKey
  | other (name : String)
  deriving DecidableEq, Repr

/-- The layer that defines a class of faults. -/
inductive Layer
  | language
  | socket
  | tls
  | http
  deriving DecidableEq, Repr

structure Fault where
  cls : FaultClass
  text : String
  deriving DecidableEq, Repr

namespace SystemFault

def all : List SystemFault :=
  [.any, .blocking, .childProcess, .connection, .brokenPipe, .connectionAborted,
   .connectionRefused, .connectionReset, .fileExists, .fileNotFound, .interrupted, .isADirectory,
   .notADirectory, .permission, .processLookup, .timeout, .addressInfo, .hostLookup]

def name : SystemFault → String
  | .any => "OSError"
  | .blocking => "BlockingIOError"
  | .childProcess => "ChildProcessError"
  | .connection => "ConnectionError"
  | .brokenPipe => "BrokenPipeError"
  | .connectionAborted => "ConnectionAbortedError"
  | .connectionRefused => "ConnectionRefusedError"
  | .connectionReset => "ConnectionResetError"
  | .fileExists => "FileExistsError"
  | .fileNotFound => "FileNotFoundError"
  | .interrupted => "InterruptedError"
  | .isADirectory => "IsADirectoryError"
  | .notADirectory => "NotADirectoryError"
  | .permission => "PermissionError"
  | .processLookup => "ProcessLookupError"
  | .timeout => "TimeoutError"
  | .addressInfo => "gaierror"
  | .hostLookup => "herror"

def layer : SystemFault → Layer
  | .addressInfo | .hostLookup => .socket
  | _ => .language

/-- The class that an error number of the operating system stands for. -/
def ofErrorNumber (n : Int) : SystemFault :=
  match n with
  | 1 | 13 => .permission
  | 2 => .fileNotFound
  | 3 => .processLookup
  | 4 => .interrupted
  | 10 => .childProcess
  | 11 | 114 | 115 => .blocking
  | 17 => .fileExists
  | 20 => .notADirectory
  | 21 => .isADirectory
  | 32 | 108 => .brokenPipe
  | 103 => .connectionAborted
  | 104 => .connectionReset
  | 110 => .timeout
  | 111 => .connectionRefused
  | _ => .any

end SystemFault

namespace TlsFault

def all : List TlsFault :=
  [.any, .certificate, .endOfStream, .syscall, .wantRead, .wantWrite, .zeroReturn]

def name : TlsFault → String
  | .any => "SSLError"
  | .certificate => "SSLCertVerificationError"
  | .endOfStream => "SSLEOFError"
  | .syscall => "SSLSyscallError"
  | .wantRead => "SSLWantReadError"
  | .wantWrite => "SSLWantWriteError"
  | .zeroReturn => "SSLZeroReturnError"

end TlsFault

namespace HttpFault

/-- Every class but the one of status errors, which need a status. -/
def withoutStatus : List HttpFault :=
  [.any, .request, .transport, .timeout, .connectTimeout, .readTimeout, .writeTimeout,
   .poolTimeout, .network, .connect, .read, .write, .close, .protocol, .localProtocol,
   .remoteProtocol, .proxy, .unsupportedProtocol, .decoding, .tooManyRedirects, .invalidAddress,
   .cookieConflict, .stream, .streamConsumed, .streamClosed, .responseNotRead, .requestNotRead]

def name : HttpFault → String
  | .any => "HTTPError"
  | .request => "RequestError"
  | .transport => "TransportError"
  | .timeout => "TimeoutException"
  | .connectTimeout => "ConnectTimeout"
  | .readTimeout => "ReadTimeout"
  | .writeTimeout => "WriteTimeout"
  | .poolTimeout => "PoolTimeout"
  | .network => "NetworkError"
  | .connect => "ConnectError"
  | .read => "ReadError"
  | .write => "WriteError"
  | .close => "CloseError"
  | .protocol => "ProtocolError"
  | .localProtocol => "LocalProtocolError"
  | .remoteProtocol => "RemoteProtocolError"
  | .proxy => "ProxyError"
  | .unsupportedProtocol => "UnsupportedProtocol"
  | .decoding => "DecodingError"
  | .tooManyRedirects => "TooManyRedirects"
  | .status _ => "HTTPStatusError"
  | .invalidAddress => "InvalidURL"
  | .cookieConflict => "CookieConflict"
  | .stream => "StreamError"
  | .streamConsumed => "StreamConsumed"
  | .streamClosed => "StreamClosed"
  | .responseNotRead => "ResponseNotRead"
  | .requestNotRead => "RequestNotRead"

/-- The class that a class extends, within the HTTP client. -/
def parent? : HttpFault → Option HttpFault
  | .any => none
  | .request | .status _ => some .any
  | .transport | .decoding | .tooManyRedirects => some .request
  | .timeout | .network | .protocol | .proxy | .unsupportedProtocol => some .transport
  | .connectTimeout | .readTimeout | .writeTimeout | .poolTimeout => some .timeout
  | .connect | .read | .write | .close => some .network
  | .localProtocol | .remoteProtocol => some .protocol
  | .invalidAddress | .cookieConflict | .stream => none
  | .streamConsumed | .streamClosed | .responseNotRead | .requestNotRead => some .stream

/-- Failures of carrying a request, as opposed to failures of its content. -/
def isTransport : HttpFault → Bool
  | .transport | .timeout | .connectTimeout | .readTimeout | .writeTimeout | .poolTimeout
  | .network | .connect | .read | .write | .close
  | .protocol | .localProtocol | .remoteProtocol | .proxy | .unsupportedProtocol => true
  | _ => false

/-- The documented failures of the HTTP client. -/
def isHttpError (f : HttpFault) : Bool :=
  match f with
  | .any | .request | .decoding | .tooManyRedirects | .status _ => true
  | f => f.isTransport

/-- The text of the classes whose text is fixed. -/
def fixedText? : HttpFault → Option String
  | .streamClosed =>
    some "Attempted to read or stream content, but the stream has been closed."
  | .streamConsumed =>
    some ("Attempted to read or stream some content, but the content has already been streamed. "
      ++ "For requests, this could be due to passing a generator as request content, and then "
      ++ "receiving a redirect response or a secondary request as part of an authentication flow."
      ++ "For responses, this could be due to attempting to stream the response content more than "
      ++ "once.")
  | .responseNotRead =>
    some "Attempted to access streaming response content, without having called `read()`."
  | .requestNotRead =>
    some "Attempted to access streaming request content, without having called `read()`."
  | _ => none

theorem isTransport_iff_parent (f : HttpFault) :
    f.isTransport = true ↔ f = .transport ∨ ∃ p, f.parent? = some p ∧ p.isTransport = true := by
  cases f <;> simp [isTransport, parent?]

end HttpFault

namespace FaultClass

def name : FaultClass → String
  | .system f => f.name
  | .tls f => f.name
  | .http f => f.name
  | .missingKey => "KeyError"
  | .other name => name

def layer : FaultClass → Layer
  | .system f => f.layer
  | .tls _ => .tls
  | .http _ => .http
  | .missingKey | .other _ => .language

def isTls : FaultClass → Bool
  | .tls _ => true
  | _ => false

/-- The stop of an iteration, which no stream lets out as it is. -/
def isStop : FaultClass → Bool
  | .other name => name == "StopIteration"
  | _ => false

/-- Faults of the secure channel are faults of the operating system. -/
def isSystem : FaultClass → Bool
  | .system _ | .tls _ => true
  | _ => false

def isHttpTransport : FaultClass → Bool
  | .http f => f.isTransport
  | _ => false

def isHttpError : FaultClass → Bool
  | .http f => f.isHttpError
  | _ => false

/-- A fault of input or output: what opening and using a handle may raise. -/
def isInputOutput (c : FaultClass) : Bool := c.isSystem || c.isHttpTransport

def status? : FaultClass → Option Int
  | .http (.status code) => some code
  | _ => none

/-- The class of a name, in the layer that defines it or gives it a second name. A status error
takes its status from `code`. -/
def ofName (layer : Layer) (name : String) (code : Int) : FaultClass :=
  match layer with
  | .http =>
    if name = "HTTPStatusError" then .http (.status code)
    else match HttpFault.withoutStatus.find? (·.name == name) with
      | some f => .http f
      | none => .other name
  | .tls =>
    if name = "CertificateError" then .tls .certificate
    else match TlsFault.all.find? (·.name == name) with
      | some f => .tls f
      | none => .other name
  | .socket =>
    if name = "timeout" then .system .timeout
    else if name = "error" then .system .any
    else match SystemFault.all.find? (·.name == name) with
      | some f => .system f
      | none => .other name
  | .language =>
    if name = "KeyError" then .missingKey
    else if name = "IOError" ∨ name = "EnvironmentError" then .system .any
    else match SystemFault.all.find? (·.name == name) with
      | some f => .system f
      | none => .other name

end FaultClass

namespace Fault

def http (f : HttpFault) (text : String) : Fault := ⟨.http f, text⟩

def streamClosed : Fault := ⟨.http .streamClosed, HttpFault.streamClosed.fixedText?.getD ""⟩

def invalidValue (text : String) : Fault := ⟨.other "ValueError", text⟩

def invalidType (text : String) : Fault := ⟨.other "TypeError", text⟩

def overflow (text : String) : Fault := ⟨.other "OverflowError", text⟩

def closedClient : Fault :=
  ⟨.other "RuntimeError", "Cannot send a request, as the client has been closed."⟩

/-- What becomes of a stop of iteration that leaves a stream. -/
def streamStopped : Fault := ⟨.other "RuntimeError", "generator raised StopIteration"⟩

def unencodable (text : String) : Fault := ⟨.other "UnicodeEncodeError", text⟩

def missingAttribute (typeName name : String) : Fault :=
  ⟨.other "AttributeError", "'" ++ typeName ++ "' object has no attribute '" ++ name ++ "'"⟩

def missingKey (key : String) : Fault := ⟨.missingKey, Text.quoted key⟩

end Fault

end SecureExchange.Failure
