import SecureExchange.Address.Redirect
import SecureExchange.Exchange.Fields
import SecureExchange.Exchange.Verb
import SecureExchange.Number.Binary64
import SecureExchange.Text.Base64

/-!
# Requests as they are sent

`Request.build` puts a request together from what an exchange holds: the client's own fields come
first, unless the exchange has fields of these names; then the fields of the exchange; then the
cookies of the client; then the length of the content. The host, and a length of zero where one is
expected, come in front of all.

`Request.movedFields` are the fields of the request that would follow a request to another place.
-/

namespace SecureExchange

open Text Address

/-- How long to wait for a connection, and for anything else but a reply. -/
def connectTimeout : Binary64 := .ofNat 30

structure Request where
  verb : Verb
  target : Target
  fields : List Field
  body : Octets
  readTimeout : Option Binary64

/-- What a client has kept for a request: nothing at all, nothing for its address, or the text of a
field. -/
inductive Cookies
  | empty
  | unmatched
  | text (s : String)
  deriving DecidableEq, Repr

/-- Why a request cannot be built. -/
inductive BuildFault
  | unencodable (e : Unencodable)
  | listing (f : ListingFault)
  | reference (f : Reference.Fault)

namespace Request

/-- The fields that the client sends with every request. -/
def clientFields : List Field :=
  [.ofText "Accept" "*/*", .ofText "Accept-Encoding" "gzip, deflate",
   .ofText "Connection" "keep-alive", .ofText "User-Agent" "python-httpx/0.28.1"]

def accessKey (name : String) : Octets := (Field.ofText name "").key

def contentLength : Octets := accessKey "content-length"

/-- The name of a field as it is compared with the client's own: ASCII in small letters. -/
def comparedKey (k : Charset) (f : Field) : Except Unencodable Octets :=
  Charset.ascii.encode (lowerChars (readWith k f.key).toList)

def comparedKeys (k : Charset) : List Field → Except Unencodable (List Octets)
  | [] => .ok []
  | f :: rest =>
    match comparedKey k f with
    | .error e => .error e
    | .ok key => (comparedKeys k rest).map (key :: ·)

/-- The client's fields, as far as the given ones do not replace them, and the given ones. -/
def mergeFields (own : List Field) : Except Unencodable (List Field) :=
  (comparedKeys (charsetOf own) own).map fun keys ↦
    clientFields.filter (fun f ↦ !keys.contains f.key) ++ own

/-- A client that has kept anything lists the fields and reads the address. -/
def checkForCookies (target : Target) (fields : List Field) : Except BuildFault Unit :=
  match listFields (charsetOf fields) fields with
  | .error f => .error (.listing f)
  | .ok _ =>
    match Reference.parse target.render with
    | .error f => .error (.reference f)
    | .ok _ => .ok ()

/-- The fields with one for cookies, unless that is set. -/
def addCookies (cookies : Cookies) (target : Target) (fields : List Field) :
    Except BuildFault (List Field) :=
  match cookies with
  | .empty => .ok fields
  | .unmatched => (checkForCookies target fields).map fun _ ↦ fields
  | .text s =>
    match checkForCookies target fields with
    | .error f => .error f
    | .ok () =>
      if hasField (accessKey "cookie") fields then .ok fields
      else match (charsetOf fields).encode s.toList with
        | .error e => .error (.unencodable e)
        | .ok value => .ok (fields ++ [⟨Utf8.encode "Cookie".toList, value⟩])

def addLength (body : Octets) (fields : List Field) : List Field :=
  if body.isEmpty || hasField contentLength fields then fields
  else fields ++ [.ofText "Content-Length" (toString body.length)]

/-- The host in front, unless it is set. -/
def hostFields (target : Target) (fields : List Field) : Except Unencodable (List Field) :=
  if hasField (accessKey "host") fields then .ok []
  else (Charset.ascii.encode target.hostPort).map fun host ↦ [⟨Utf8.encode "Host".toList, host⟩]

def zeroLength (verb : Verb) (fields : List Field) : List Field :=
  if verb.expectsLength && !hasField contentLength fields
      && !hasField (accessKey "transfer-encoding") fields then
    [.ofText "Content-Length" "0"]
  else []

def build (verb : Verb) (target : Target) (own : List Field) (body : Octets)
    (readTimeout : Binary64) (cookies : Cookies) : Except BuildFault Request :=
  match mergeFields own with
  | .error e => .error (.unencodable e)
  | .ok merged =>
    match addCookies cookies target merged with
    | .error f => .error f
    | .ok merged =>
      let fields := addLength body merged
      match hostFields target fields with
      | .error e => .error (.unencodable e)
      | .ok host => .ok {
          verb := verb
          target := target
          fields := host ++ zeroLength verb fields ++ fields
          body := body
          readTimeout := if readTimeout.isZero then none else some readTimeout }

/-- The credentials in a target, in the form that a request carries them in. -/
def basicCredentials (user password : List Char) : String :=
  "Basic " ++ String.ofList (Base64.encode (Utf8.encode (user ++ ':' :: password)))

/-- A target with a user name or a password sets the field for credentials. -/
def authorize (r : Request) : Request :=
  let user := r.target.userName
  let password := r.target.password
  if user.isEmpty && password.isEmpty then r
  else
    let f := Field.ofText "Authorization" (basicCredentials user password)
    { r with fields := putField f r.fields }

/-! ### Requests to another place -/

/-- The verb of a request that follows another one, for a reply of the status. -/
def movedVerb (status : Int) (verb : Verb) : Verb :=
  if (status = 303 ∨ status = 302) ∧ verb ≠ .head then .get
  else if status = 301 ∧ verb = .post then .get
  else verb

def dropField (name : String) (fields : List Field) : List Field :=
  fields.filter fun f ↦ decide (f.key ≠ accessKey name)

/-- The fields of a request that follows another one. Credentials stay at their place, and a request
of another verb carries no content. -/
def movedFields (r : Request) (status : Int) (there : Target) : List Field :=
  let placed :=
    if Redirect.isSamePlace r.target there then r.fields
    else putField (.ofText "Host" (String.ofList there.hostPort))
      (dropField "authorization" r.fields)
  let sized :=
    if movedVerb status r.verb = r.verb then placed
    else dropField "content-length" (dropField "transfer-encoding" placed)
  dropField "cookie" sized

@[simp] theorem body_authorize (r : Request) : r.authorize.body = r.body := by
  unfold authorize
  dsimp only
  split <;> rfl

@[simp] theorem verb_authorize (r : Request) : r.authorize.verb = r.verb := by
  unfold authorize
  dsimp only
  split <;> rfl

@[simp] theorem target_authorize (r : Request) : r.authorize.target = r.target := by
  unfold authorize
  dsimp only
  split <;> rfl

end Request

end SecureExchange
