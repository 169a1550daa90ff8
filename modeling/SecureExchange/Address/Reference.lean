import SecureExchange.Address.Ip
import SecureExchange.Number.Parse
import SecureExchange.Text.Case
import SecureExchange.Text.Cut
import SecureExchange.Text.Quoted

/-!
# Address references

The lenient reading of an address, for texts that may or may not be targets: `parse` divides it into
six parts without changing them, and `render` writes the parts out again. Only the authority is
checked: its brackets, and that no character in it disguises a separator.
-/

namespace SecureExchange.Address

open Text

structure Reference where
  scheme : List Char
  authority : List Char
  path : List Char
  params : List Char
  query : List Char
  fragment : List Char
  deriving DecidableEq, Repr

namespace Reference

inductive Fault
  | brackets
  | futureAddress
  | noAddress (host : List Char)
  | bracketedIpv4
  | disguised (authority : List Char)
  | portText (text : List Char)
  | portDigits (count : Nat)
  | portRange
  deriving DecidableEq, Repr

def Fault.message : Fault → String
  | .brackets => "Invalid IPv6 URL"
  | .futureAddress => "IPvFuture address is invalid"
  | .noAddress host =>
    String.ofList (Quoted.encode host) ++ " does not appear to be an IPv4 or IPv6 address"
  | .bracketedIpv4 => "An IPv4 address cannot be in brackets"
  | .disguised authority =>
    "netloc '" ++ String.ofList authority
      ++ "' contains invalid characters under NFKC normalization"
  | .portText text =>
    "Port could not be cast to integer value as " ++ String.ofList (Quoted.encode text)
  | .portDigits count =>
    "Exceeds the limit (" ++ toString Number.maxDigits ++ " digits) for integer string conversion: "
      ++ "value has " ++ toString count
      ++ " digits; use sys.set_int_max_str_digits() to increase the limit"
  | .portRange => "Port out of range 0-65535"

/-! ### Checking an authority -/

/-- What follows the last at sign. -/
def hostInfo (authority : List Char) : List Char := (cutLast '@' authority).2

/-- Characters whose compatible form holds one of the separators of an address. -/
def disguises : CharClass where
  ranges := #[(0x2047, 0x2049), (0x2100, 0x2101), (0x2105, 0x2106), (0x2A74, 0x2A74),
    (0xFE13, 0xFE13), (0xFE16, 0xFE16), (0xFE55, 0xFE56), (0xFE5F, 0xFE5F), (0xFE6B, 0xFE6B),
    (0xFF03, 0xFF03), (0xFF0F, 0xFF0F), (0xFF1A, 0xFF1A), (0xFF1F, 0xFF20)]

/-- An address of a later version: the letter v, its version, a dot and something more. -/
def isFutureAddress (s : List Char) : Bool :=
  match s with
  | 'v' :: rest =>
    let version := rest.takeWhile isHexDigit
    match rest.dropWhile isHexDigit with
    | '.' :: _ :: _ => !version.isEmpty
    | _ => false
  | _ => false

def checkBracketed (host : List Char) : Except Fault Unit :=
  if host.head? = some 'v' then
    if isFutureAddress host then .ok () else .error .futureAddress
  else if isIpv4 host then .error .bracketedIpv4
  else if isIpv6 host then .ok ()
  else .error (.noAddress host)

/-- Of an authority with both brackets, nothing stands in front of the opening one, and only a port
behind the closing one. -/
def checkBrackets (authority : List Char) : Except Fault Unit :=
  let info := hostInfo authority
  match cut '[' info with
  | (before, some inner) =>
    let (host, after) := cut ']' inner
    let after := after.getD []
    if !before.isEmpty then .error .brackets
    else if !after.isEmpty && after.head? != some ':' then .error .brackets
    else checkBracketed host
  | (_, none) => checkBracketed (cut ':' info).1

def checkAuthority (authority : List Char) : Except Fault Unit :=
  let opens := authority.contains '['
  let closes := authority.contains ']'
  if opens != closes then .error .brackets
  else if opens then checkBrackets authority
  else .ok ()

def checkDisguise (authority : List Char) : Except Fault Unit :=
  if authority.any disguises.contains then .error (.disguised authority) else .ok ()

/-! ### Dividing -/

def isSchemeChar (c : Char) : Bool := c.isAlphanum || c == '+' || c == '-' || c == '.'

/-- Blanks and control characters in front, and tabs and line ends, are no part of a reference. -/
def clean (s : List Char) : List Char :=
  (s.dropWhile fun c ↦ decide (c.toNat ≤ 0x20)).filter fun c ↦
    c != '\t' && c != '\r' && c != '\n'

def splitScheme (s : List Char) : List Char × List Char :=
  match cut ':' s with
  | (c :: rest, some after) =>
    if c.isAlpha && rest.all isSchemeChar then ((c :: rest).map lowerAscii, after) else ([], s)
  | _ => ([], s)

def endsAuthority (c : Char) : Bool := c == '/' || c == '?' || c == '#'

def splitAuthority (s : List Char) : List Char × List Char :=
  match s with
  | '/' :: '/' :: rest => (rest.takeWhile (!endsAuthority ·), rest.dropWhile (!endsAuthority ·))
  | _ => ([], s)

/-- Schemes whose last path segment may carry parameters. -/
def schemesWithParams : List String :=
  ["", "ftp", "hdl", "prospero", "http", "imap", "https", "shttp", "rtsp", "rtspu", "sip", "sips",
   "mms", "sftp", "tel"]

/-- Parameters follow the first semicolon of the last segment. -/
def splitParams (path : List Char) : List Char × List Char :=
  let (before, last) := cutLast '/' path
  match cut ';' last, before with
  | (segment, some params), some b => (b ++ '/' :: segment, params)
  | (segment, some params), none => (segment, params)
  | (_, none), _ => (path, [])

def divide (s : List Char) : Reference :=
  let (scheme, afterScheme) := splitScheme (clean s)
  let (authority, afterAuthority) := splitAuthority afterScheme
  let (beforeFragment, fragment) := cut '#' afterAuthority
  let (pathAndParams, query) := cut '?' beforeFragment
  let (path, params) :=
    if schemesWithParams.contains (String.ofList scheme) then splitParams pathAndParams
    else (pathAndParams, [])
  ⟨scheme, authority, path, params, query.getD [], fragment.getD []⟩

def parse (s : List Char) : Except Fault Reference :=
  let r := divide s
  match checkAuthority r.authority with
  | .error e => .error e
  | .ok () =>
    match checkDisguise r.authority with
    | .error e => .error e
    | .ok () => .ok r

/-! ### Views of the authority -/

def userinfo (r : Reference) : Option (List Char) := (cutLast '@' r.authority).1

def userName (r : Reference) : Option (List Char) := r.userinfo.map fun u ↦ (cut ':' u).1

def password (r : Reference) : Option (List Char) := r.userinfo.bind fun u ↦ (cut ':' u).2

/-- Host and port as they were written. -/
def hostAndPort (r : Reference) : List Char × List Char :=
  let info := hostInfo r.authority
  match cut '[' info with
  | (_, some inner) =>
    let (host, after) := cut ']' inner
    (host, ((cut ':' (after.getD [])).2).getD [])
  | (_, none) =>
    let (host, port) := cut ':' info
    (host, port.getD [])

/-- The host in small letters, except for the zone of an address. -/
def hostName (r : Reference) : Option (List Char) :=
  let host := r.hostAndPort.1
  if host.isEmpty then none
  else match cut '%' host with
    | (name, none) => some (lowerChars name)
    | (name, some zone) => some (lowerChars name ++ '%' :: zone)

def port (r : Reference) : Except Fault (Option Nat) :=
  let text := r.hostAndPort.2
  if text.isEmpty then .ok none
  else if text.all fun c ↦ c.isDigit then
    if Number.maxDigits < text.length then .error (.portDigits text.length)
    else
      let n := Number.digitsValue text
      if n ≤ 65535 then .ok (some n) else .error .portRange
  else .error (.portText text)

/-! ### Writing -/

/-- Schemes whose references show an authority even when it is empty. -/
def schemesWithAuthority : List String :=
  ["", "ftp", "http", "gopher", "nntp", "telnet", "imap", "wais", "file", "mms", "https", "shttp",
   "snews", "prospero", "rtsp", "rtspu", "rsync", "svn", "svn+ssh", "sftp", "nfs", "git",
   "git+ssh", "ws", "wss"]

def showsAuthority (r : Reference) (path : List Char) : Bool :=
  !r.authority.isEmpty
    || (!r.scheme.isEmpty && schemesWithAuthority.contains (String.ofList r.scheme)
      && path.take 2 != ['/', '/'])

def render (r : Reference) : List Char :=
  let path := if r.params.isEmpty then r.path else r.path ++ ';' :: r.params
  let located :=
    if r.showsAuthority path then
      '/' :: '/' :: r.authority
        ++ (if path.isEmpty || path.head? == some '/' then path else '/' :: path)
    else path
  (if r.scheme.isEmpty then [] else r.scheme ++ [':'])
    ++ located
    ++ (if r.query.isEmpty then [] else '?' :: r.query)
    ++ (if r.fragment.isEmpty then [] else '#' :: r.fragment)

end Reference

end SecureExchange.Address
