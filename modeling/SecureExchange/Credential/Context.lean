import SecureExchange.Credential.Files
import SecureExchange.Credential.Header
import SecureExchange.Failure.Classified
import SecureExchange.Failure.Fault

/-!
# Contexts of the secure channel

A context presents a certificate to the peer and checks the peer's. It is made from the paths of a
certificate, of its key and, optionally, of own authorities. The checks run in a fixed order: both
files exist, they form a pair, then the authorities exist and hold a certificate.

A file of certificates has to be well-formed to its end. A file of keys is searched for the first
block that is known to be a key, whatever else it holds.
-/

namespace SecureExchange.Credential

open Failure

structure Config where
  certificate : List Char
  key : List Char
  authorities : Option (List Char)
  password : Option String

inductive Role
  | certificate
  | key
  | authorities
  deriving DecidableEq, Repr

def Role.label : Role → String
  | .certificate => "Certificate"
  | .key => "Key"
  | .authorities => "CA certs"

inductive Refusal
  | missing (role : Role) (path : Path)
  | nameTooLong
  | isDirectory
  | passwordTooLong
  | unusable
  deriving DecidableEq, Repr

/-- The error for a missing file. Other refusals are raised as faults. -/
def Refusal.error? : Refusal → Option Classified
  | .missing role path =>
    let shown := String.ofList path.toText
    some (.ofClass .invalidArgument (some (role.label ++ " file not found: " ++ shown)) none
      [("path", .text shown)])
  | _ => none

/-- The most octets of a password. -/
def maxPassword : Nat := 1024

/-- The class of the fault that a refusal is raised as, and its text where that is settled here. -/
def Refusal.fault : Refusal → FaultClass × Option String
  | .missing .. | .unusable => (.tls .any, none)
  | .nameTooLong => (.system .any, none)
  | .isDirectory => (.system .isADirectory, none)
  | .passwordTooLong =>
    (.other "ValueError",
      some ("password cannot be longer than " ++ toString maxPassword ++ " bytes"))

inductive TlsVersion
  | v1_2
  | v1_3
  deriving DecidableEq, Repr

/-- Whether the peer has to present a certificate. -/
inductive PeerCheck
  | none
  | required
  deriving DecidableEq, Repr

structure Context where
  checksHostName : Bool
  peerCheck : PeerCheck
  leastVersion : TlsVersion
  pair : Pair
  /-- The authorities of its own, without repetition. -/
  ownAuthorities : Option (List Pair)
  deriving DecidableEq, Repr

/-- The password that locks a key. -/
def passwordOf (pair : Pair) : Octets := ascii "pw" ++ ascii (toString pair)

/-- Passwords of at most this length are filled up with zeros to it before they are used. -/
def passwordBlock : Nat := 64

/-- A password without what makes no difference to it. -/
def effective (password : Octets) : Octets :=
  if password.length ≤ passwordBlock then (password.reverse.dropWhile (· == 0)).reverse
  else password

/-- The pair of a key that can be used. A password matters only for a locked key. -/
def unlock (password : Option String) : Content → Except Refusal Pair
  | .key pair => .ok pair
  | .lockedKey pair =>
    match password with
    | none => .error .unusable
    | some text =>
      let given := ascii text
      if maxPassword < given.length then .error .passwordTooLong
      else if effective given = passwordOf pair then .ok pair
      else .error .unusable
  | .certificate _ => .error .unusable

def Content.isKey : Content → Bool
  | .key _ | .lockedKey _ => true
  | .certificate _ => false

def Content.certificate? : Content → Option Pair
  | .certificate pair => some pair
  | _ => none

def oldCertificateName : Octets := ascii "X509 CERTIFICATE"

def trustedCertificateName : Octets := ascii "TRUSTED CERTIFICATE"

/-- The names of certificates in a chain. -/
def chainNames : List Octets := [certificateName, oldCertificateName]

/-- The names of certificates that stand alone. -/
def certificateNames : List Octets := trustedCertificateName :: chainNames

def revocationName : Octets := ascii "X509 CRL"

def keyName : Octets := ascii "PRIVATE KEY"

def lockedKeyName : Octets := ascii "ENCRYPTED PRIVATE KEY"

/-- The names of keys that need no search. -/
def keyNames : List Octets :=
  [keyName, lockedKeyName, ascii "RSA PRIVATE KEY", ascii "DSA PRIVATE KEY", ascii "EC PRIVATE KEY"]

/-- Headers of at most this length do not speak of encryption. -/
def shortHeader : Nat := 10

/-- The certificate of a block that consists of nothing else. -/
def Block.certificate? (b : Block) : Option Pair :=
  if b.header.isEmpty then b.content.bind Content.certificate? else none

/-- The key that a block holds. -/
def Block.key? (b : Block) : Option Content := b.content.filter Content.isKey

/-- Every certificate that follows can be read, and no block is malformed. -/
def isChain : List Reading → Bool
  | [] | .nothing :: _ => true
  | .malformed :: _ => false
  | .block b :: rest =>
    if chainNames.contains b.name then b.certificate?.isSome && isChain rest else isChain rest

/-- The first certificate, if what follows it is a chain. -/
def ownCertificate? : List Reading → Option Pair
  | [] | .nothing :: _ | .malformed :: _ => none
  | .block b :: rest =>
    if certificateNames.contains b.name then
      match b.certificate? with
      | some pair => if isChain rest then some pair else none
      | none => none
    else ownCertificate? rest

/-- The first key, whatever else there is. The search ends at a block that seems to be encrypted. -/
def searchKey? : List Reading → Option Content
  | [] => none
  | .block b :: rest =>
    if shortHeader < b.header.length then none
    else match b.key? with
      | some c => some c
      | none => searchKey? rest
  | _ :: rest => searchKey? rest

/-- The key of the first block that has the name of one. -/
def namedKey? : List Reading → Option Content
  | [] | .nothing :: _ | .malformed :: _ => none
  | .block b :: rest =>
    if keyNames.contains b.name then if b.header.isEmpty then b.key? else none
    else namedKey? rest

def ownKey? (readings : List Reading) : Option Content :=
  match searchKey? readings with
  | some c => some c
  | none => namedKey? readings

/-- Whether a key can stand among authorities: it is read as far as it is not encrypted. -/
def passesAsKey (b : Block) : Bool :=
  if shortHeader < b.header.length ∨ b.name = lockedKeyName then
    b.header.isEmpty || Header.isEncryption b.header
  else b.header.isEmpty && b.key?.isSome

/-- Whether something other than a certificate can stand among authorities. -/
def passes (b : Block) : Bool :=
  if b.name = revocationName then false
  else if Text.occurs keyName b.name then passesAsKey b
  else true

/-- All certificates, if everything else can stand beside them. -/
def certificates? : List Reading → Option (List Pair)
  | [] | .nothing :: _ => some []
  | .malformed :: _ => none
  | .block b :: rest =>
    if certificateNames.contains b.name then
      match b.certificate? with
      | some pair => (certificates? rest).map (pair :: ·)
      | none => none
    else if passes b then certificates? rest
    else none

def existing (role : Role) (path : List Char) (files : Files) : Except Refusal Node :=
  match files.lookup (.ofText path) with
  | .node n => .ok n
  | .nothing => .error (.missing role (.ofText path))
  | .nameTooLong => .error .nameTooLong

def Node.readings : Node → Except Refusal (List Reading)
  | .directory => .error .isDirectory
  | .file parts => .ok (Block.readings (Line.ofParts parts))

/-- The certificate is read before the key. -/
def loadPair (certificate key : Node) (password : Option String) : Except Refusal Pair :=
  match certificate.readings with
  | .error e => .error e
  | .ok readings =>
    match ownCertificate? readings with
    | none => .error .unusable
    | some pair =>
      match key.readings with
      | .error e => .error e
      | .ok readings =>
        match ownKey? readings with
        | none => .error .unusable
        | some c =>
          match unlock password c with
          | .error e => .error e
          | .ok keyPair => if keyPair = pair then .ok pair else .error .unusable

def loadAuthorities (node : Node) : Except Refusal (List Pair) :=
  match node.readings with
  | .error e => .error e
  | .ok readings =>
    match (certificates? readings).map (·.eraseDups) with
    | none | some [] => .error .unusable
    | some authorities => .ok authorities

/-- The authorities of an empty path are the common ones. -/
def authoritiesOf (path : Option (List Char)) (files : Files) :
    Except Refusal (Option (List Pair)) :=
  match path with
  | none | some [] => .ok none
  | some path =>
    match existing .authorities path files with
    | .error e => .error e
    | .ok node => (loadAuthorities node).map some

def Context.create (config : Config) (files : Files) : Except Refusal Context :=
  match existing .certificate config.certificate files with
  | .error e => .error e
  | .ok certificate =>
    match existing .key config.key files with
    | .error e => .error e
    | .ok key =>
      match loadPair certificate key config.password with
      | .error e => .error e
      | .ok pair =>
        (authoritiesOf config.authorities files).map fun authorities ↦ {
          checksHostName := true
          peerCheck := .required
          leastVersion := .v1_2
          pair := pair
          ownAuthorities := authorities }

end SecureExchange.Credential
