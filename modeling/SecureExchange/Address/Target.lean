import SecureExchange.Address.HostName
import SecureExchange.Address.Ip
import SecureExchange.Number.Parse
import SecureExchange.Text.Case
import SecureExchange.Text.Percent

/-!
# Request targets

The strict reading of an address: `parse` divides it, checks host and port, and brings every part
into the form in which it is sent; `render` writes the parts out. A query or fragment that is absent
is not the same as an empty one.
-/

namespace SecureExchange.Address

open Text

structure Target where
  scheme : List Char
  userinfo : List Char
  host : List Char
  port : Option Int
  path : List Char
  query : Option (List Char)
  fragment : Option (List Char)
  deriving DecidableEq, Repr

namespace Target

inductive Fault
  | tooLong
  | unprintable (c : Char) (index : Nat)
  | ipv4 (host : List Char)
  | ipv6 (host : List Char)
  | hostName (host : List Char)
  | port (text : List Char)
  | pathAfterAuthority
  | relativeDoubleSlash
  | relativeColon
  deriving DecidableEq, Repr

def quoteText (s : List Char) : String := String.ofList (Quoted.encode s)

def Fault.message : Fault → String
  | .tooLong => "URL too long"
  | .unprintable c index =>
    "Invalid non-printable ASCII character in URL, " ++ quoteText [c] ++ " at position "
      ++ toString index ++ "."
  | .ipv4 host => "Invalid IPv4 address: " ++ quoteText host
  | .ipv6 host => "Invalid IPv6 address: " ++ quoteText host
  | .hostName host => "Invalid IDNA hostname: " ++ quoteText host
  | .port text => "Invalid port: " ++ quoteText text
  | .pathAfterAuthority => "For absolute URLs, path must be empty or begin with '/'"
  | .relativeDoubleSlash => "Relative URLs cannot have a path starting with '//'"
  | .relativeColon => "Relative URLs cannot have a path starting with ':'"

/-! ### Dividing -/

def isLetter (c : Char) : Bool := c.isAlpha

def isSchemeChar (c : Char) : Bool := c.isAlphanum || c == '+' || c == '.' || c == '-'

/-- A scheme starts with a letter and ends at a colon. A colon in front is dropped as well. -/
def splitScheme (s : List Char) : List Char × List Char :=
  match s with
  | [] => ([], s)
  | c :: rest =>
    if c = ':' then ([], rest)
    else if isLetter c then
      match s.dropWhile isSchemeChar with
      | ':' :: after => (s.takeWhile isSchemeChar, after)
      | _ => ([], s)
    else ([], s)

def endsAuthority (c : Char) : Bool := c == '/' || c == '?' || c == '#'

def splitAuthority (s : List Char) : List Char × List Char :=
  match s with
  | '/' :: '/' :: rest => (rest.takeWhile (!endsAuthority ·), rest.dropWhile (!endsAuthority ·))
  | _ => ([], s)

def endsPath (c : Char) : Bool := c == '?' || c == '#'

/-- Path, query and fragment. -/
def splitPath (s : List Char) : List Char × Option (List Char) × Option (List Char) :=
  let path := s.takeWhile (!endsPath ·)
  match s.dropWhile (!endsPath ·) with
  | '?' :: rest => (path, some (cut '#' rest).1, (cut '#' rest).2)
  | _ :: rest => (path, none, some rest)
  | [] => (path, none, none)

/-- The text in front of the port of an authority without userinfo, and the port. A host in brackets
ends at the last closing bracket, any other at the first colon. -/
def splitHost (s : List Char) : List Char × List Char :=
  let (host, rest) :=
    match s, cutLast ']' s with
    | '[' :: _, (some inner, after) => (inner ++ [']'], after)
    | _, _ => (s.takeWhile (· != ':'), s.dropWhile (· != ':'))
  match rest with
  | ':' :: port => (host, port)
  | port => (host, port)

/-! ### Checking and normal forms -/

def subDelimiters : List Char := "!$&'()*+,;=".toList

def isUnreserved (c : Char) : Bool :=
  c.isAlphanum || c == '-' || c == '.' || c == '_' || c == '~'

def isVisible (c : Char) : Bool := decide (0x20 ≤ c.toNat) && decide (c.toNat < 0x7F)

def keptInQuery (c : Char) : Bool := isVisible c && !" \"#<>".toList.contains c

def keptInFragment (c : Char) : Bool := isVisible c && !" \"<>\x60".toList.contains c

def keptInPath (c : Char) : Bool := keptInQuery c && !"?\x60\x7b\x7d".toList.contains c

def keptInUserinfo (c : Char) : Bool := keptInPath c && !"/;=@[\\]^|".toList.contains c

def keptInHost (c : Char) : Bool :=
  isUnreserved c || subDelimiters.contains c || "\"\x60\x7b\x7d%|\\".toList.contains c

/-- Four runs of digits with dots between them. -/
def looksLikeIpv4 (s : List Char) : Bool :=
  let runs := pieces '.' s
  runs.length == 4 && runs.all fun r ↦ !r.isEmpty && r.all isAsciiDigit

def looksLikeIpv6 (s : List Char) : Bool :=
  s.head? == some '[' && s.getLast? == some ']' && decide (2 ≤ s.length)

def normalHost (host : List Char) : Except Fault (List Char) :=
  if host.isEmpty then .ok []
  else if looksLikeIpv4 host then if isIpv4 host then .ok host else .error (.ipv4 host)
  else if looksLikeIpv6 host then
    let inner := host.tail.dropLast
    if isIpv6 inner then .ok inner else .error (.ipv6 host)
  else if allAscii host then .ok (Percent.encodeWith keptInHost (lowerChars host))
  else match HostName.encode (lowerChars host) with
    | .ok name => .ok name
    | .error _ => .error (.hostName host)

def defaultPort (scheme : String) : Option Int :=
  match scheme with
  | "ftp" => some 21
  | "http" | "ws" => some 80
  | "https" | "wss" => some 443
  | _ => none

/-- The port, unless it is the default one of the scheme as that was written. -/
def normalPort (text scheme : List Char) : Except Fault (Option Int) :=
  if text.isEmpty then .ok none
  else match Number.readLoose? text with
    | none => .error (.port text)
    | some p => .ok (if defaultPort (String.ofList scheme) = some p then none else some p)

def checkPath (hasScheme hasAuthority : Bool) (path : List Char) : Except Fault Unit :=
  if hasAuthority then
    if path.isEmpty || path.head? == some '/' then .ok () else .error .pathAfterAuthority
  else if hasScheme then .ok ()
  else if path.take 2 == ['/', '/'] then .error .relativeDoubleSlash
  else if path.head? == some ':' then .error .relativeColon
  else .ok ()

def resolveDots (segments : List (List Char)) : List (List Char) :=
  segments.foldl (fun out s ↦
    if s == ['.'] then out
    else if s == ['.', '.'] then if out == [[]] then out else out.dropLast
    else out ++ [s]) []

def normalPath (path : List Char) : List Char :=
  let segments := pieces '/' path
  if segments.contains ['.'] || segments.contains ['.', '.'] then join '/' (resolveDots segments)
  else path

def maxLength : Nat := 65536

def isControl (c : Char) : Bool := decide (c.toNat < 0x20) || c.toNat == 0x7F

/-- The parts of an address as they were written. -/
structure Parts where
  scheme : List Char
  userinfo : List Char
  host : List Char
  port : List Char
  path : List Char
  query : Option (List Char)
  fragment : Option (List Char)

def divide (s : List Char) : Parts :=
  let (scheme, afterScheme) := splitScheme s
  let (authority, afterAuthority) := splitAuthority afterScheme
  let (path, query, fragment) := splitPath afterAuthority
  let (userinfo, hostAndPort) := cutLast '@' authority
  let (host, port) := splitHost hostAndPort
  ⟨scheme, userinfo.getD [], host, port, path, query, fragment⟩

def Parts.normalize (p : Parts) : Except Fault Target :=
  match normalHost p.host with
  | .error e => .error e
  | .ok host =>
    match normalPort p.port p.scheme with
    | .error e => .error e
    | .ok port =>
      let userinfo := Percent.encodeWith keptInUserinfo p.userinfo
      let hasScheme := !p.scheme.isEmpty
      let hasAuthority := !userinfo.isEmpty || !host.isEmpty || port.isSome
      match checkPath hasScheme hasAuthority p.path with
      | .error e => .error e
      | .ok () =>
        let path := if hasScheme || hasAuthority then normalPath p.path else p.path
        .ok {
          scheme := lowerChars p.scheme
          userinfo := userinfo
          host := host
          port := port
          path := Percent.encodeWith keptInPath path
          query := p.query.map (Percent.encodeWith keptInQuery)
          fragment := p.fragment.map (Percent.encodeWith keptInFragment) }

def parse (s : List Char) : Except Fault Target :=
  if maxLength < s.length then .error .tooLong
  else match s.find? isControl with
    | some c => .error (.unprintable c (s.takeWhile (!isControl ·)).length)
    | none => (divide s).normalize

/-! ### Writing -/

/-- A host with colons stands in brackets. -/
def bracketed (host : List Char) : List Char :=
  if host.contains ':' then '[' :: host ++ [']'] else host

def portText (t : Target) : List Char :=
  match t.port with
  | none => []
  | some p => (toString p).toList

def hostPort (t : Target) : List Char :=
  bracketed t.host ++ if t.port.isSome then ':' :: t.portText else []

def authority (t : Target) : List Char :=
  (if t.userinfo.isEmpty then [] else t.userinfo ++ ['@']) ++ t.hostPort

def render (t : Target) : List Char :=
  (if t.scheme.isEmpty then [] else t.scheme ++ [':'])
    ++ (if t.authority.isEmpty then [] else '/' :: '/' :: t.authority)
    ++ t.path
    ++ (match t.query with
      | none => []
      | some q => '?' :: q)
    ++ (match t.fragment with
      | none => []
      | some f => '#' :: f)

def text (t : Target) : String := String.ofList t.render

/-- The parts of a target as it is written. -/
def parts (t : Target) : Parts where
  scheme := t.scheme
  userinfo := t.userinfo
  host := bracketed t.host
  port := t.portText
  path := t.path
  query := t.query
  fragment := t.fragment

/-! ### Views -/

def userName (t : Target) : List Char := Percent.decode (cut ':' t.userinfo).1

def password (t : Target) : List Char := Percent.decode ((cut ':' t.userinfo).2.getD [])

/-- The host in readable form: an ASCII form in front is read back. -/
def readableHost (t : Target) : Except HostName.Fault (List Char) :=
  if HostName.encodedStart.isPrefixOf t.host then HostName.decode t.host else .ok t.host

end Target

end SecureExchange.Address
