import SecureExchange.Address.Form
import SecureExchange.Address.Reference
import SecureExchange.Failure.Address

/-!
# Redacted addresses

An address may carry credentials as a password in front of the host and as query parameters that
hold signatures or keys. Both are masked before an address is shown; an address that carries none is
shown as it was given.
-/

namespace SecureExchange.Redaction

open SecureExchange.Text SecureExchange.Address

def mask : List Char := "***".toList

/-- The names, in small letters, of query parameters that hold signatures or keys. -/
def sensitiveParameters : List String := ["sig", "signature", "skn", "key", "sas", "token"]

def isSensitiveParameter (name : List Char) : Bool :=
  sensitiveParameters.contains (String.ofList (lowerChars name))

def maskPair (p : List Char × List Char) : List Char × List Char :=
  if isSensitiveParameter p.1 then (p.1, mask) else p

/-- The query with the values of sensitive parameters masked. It is written anew only if there is
such a parameter. -/
def maskQuery (query : List Char) : List Char :=
  let pairs := Form.decode query
  if pairs.any (isSensitiveParameter ·.1) then Form.encode (pairs.map maskPair) else query

def hasPassword (r : Reference) : Bool := !(r.password.getD []).isEmpty

/-- The authority with its password masked, put together from user name, host and port. -/
def maskAuthority (r : Reference) : Except Reference.Fault (List Char) :=
  if hasPassword r then
    match r.port with
    | .error e => .error e
    | .ok port =>
      let host := r.hostName.getD "None".toList
      let shown := (r.userName.getD []) ++ ':' :: mask ++ '@' :: host
      .ok (match port with
        | none | some 0 => shown
        | some n => shown ++ ':' :: (toString n).toList)
  else .ok r.authority

def address (s : List Char) : Except Reference.Fault (List Char) :=
  if s.isEmpty then .ok []
  else match Reference.parse s with
    | .error e => .error e
    | .ok r =>
      match maskAuthority r with
      | .error e => .error e
      | .ok authority =>
        let query := maskQuery r.query
        if authority = r.authority ∧ query = r.query then .ok s
        else .ok { r with authority := authority, query := query }.render

def addressText (s : String) : Except Reference.Fault String :=
  (address s.toList).map String.ofList

/-- The address that a value stands for, as it is shown. What counts as false stands for none. -/
def addressOf (given : Datum) : Except Failure.Fault String :=
  match given with
  | .text s => (addressText s).mapError (·.toFault)
  | x => if x.isTrue then .error (.missingAttribute x.typeName "decode") else .ok ""

end SecureExchange.Redaction
