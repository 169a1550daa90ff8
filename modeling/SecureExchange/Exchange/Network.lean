import SecureExchange.Exchange.Request
import SecureExchange.Failure.Classified

/-!
# Handles and the peer

An exchange reaches its peer over handles, one at a time. A handle is opened with the trust that the
secure channel is checked against, and stays open until it is closed. The peer answers requests in
order, its last answer again and again; openings of handles may fail.

A handle is served by a client, which keeps cookies and undoes codings of content. How it does
either is a parameter (`Client`), but a client that has been asked to keep nothing has no cookies,
and content without a coding is what the chunks hold. Times are left out: no cookie runs out while
an exchange lasts.
-/

namespace SecureExchange

open Failure

/-- What a handle checks the peer against: what it was given ready-made, the common authorities, or
a named context. -/
inductive Trust
  | custom
  | common
  | context (name : String)
  deriving DecidableEq, Repr

structure Handle where
  trust : Trust
  isOpen : Bool
  closes : Nat
  deriving DecidableEq, Repr

namespace Handle

def opened (t : Trust) : Handle := ⟨t, true, 0⟩

/-- Only an open handle is closed. -/
def close (h : Handle) : Handle :=
  if h.isOpen then { h with isOpen := false, closes := h.closes + 1 } else h

@[simp] theorem isOpen_close (h : Handle) : h.close.isOpen = false := by
  cases ho : h.isOpen <;> simp [close, ho]

@[simp] theorem trust_close (h : Handle) : h.close.trust = h.trust := by
  cases ho : h.isOpen <;> simp [close, ho]

@[simp] theorem close_close (h : Handle) : h.close.close = h.close := by
  rw [close, isOpen_close]
  rfl

end Handle

/-- The codings of content that clients undo. -/
inductive Coding
  | gzip
  | deflate
  deriving DecidableEq, Repr

def Coding.ofName? (name : List Char) : Option Coding :=
  let name := Text.lowerChars (Text.trim name)
  if name = "gzip".toList then some .gzip
  else if name = "deflate".toList then some .deflate
  else none

/-- A reply: its stream yields the chunks, then may fail; closing the stream may fail as well. -/
structure Reply where
  status : Int
  fields : List Field
  chunks : List Octets
  readFailure : Option FailureId
  closeFailure : Option FailureId

namespace Reply

/-- Statuses from here on deliver their content as an error. -/
def errorStatus : Int := 400

def isError (r : Reply) : Bool := decide (errorStatus ≤ r.status)

def charset (r : Reply) : Text.Charset := charsetOf r.fields

/-- The codings of the content. Unknown ones are passed over. -/
def codings (r : Reply) : List Coding :=
  (r.fields.filter fun f ↦ decide (f.key = Request.accessKey "content-encoding")).flatMap fun f ↦
    (Text.pieces ',' (readWith r.charset f.value).toList).filterMap Coding.ofName?

/-- The reply asks the client to keep something for later requests. -/
def setsCookies (r : Reply) : Bool :=
  (readFields r.charset r.fields).any fun p ↦ decide (Text.lower p.1 = "set-cookie")

/-- The values of each name, in order of arrival. -/
def groupedFields (r : Reply) : OrderedMap String (List String) :=
  OrderedMap.group (readFields r.charset r.fields)

/-- The statuses whose replies may name another location. -/
def redirectStatuses : List Int := [301, 302, 303, 307, 308]

/-- The location that a reply asks to go to. -/
def location? (r : Reply) : Option String :=
  if redirectStatuses.contains r.status then
    match findField? r.charset "Location" r.fields with
    | .ok text => text
    | .error _ => none
  else none

end Reply

inductive Answer
  | refusal (failure : FailureId)
  | reply (r : Reply)

/-- The fields of a reply that asked for something to be kept, and the address that was asked. -/
structure Deposit where
  asked : Address.Target
  fields : List Field

/-- What a reply to a request asks to be kept. -/
def Reply.deposits (asked : Address.Target) (r : Reply) : List Deposit :=
  if r.setsCookies then [⟨asked, r.fields⟩] else []

structure Client where
  /-- What it has for a request to an address, after what it was asked to keep. -/
  cookies : List Deposit → Address.Target → Cookies
  /-- The content of coded chunks, or why they cannot be decoded. -/
  decode : List Coding → List Octets → Except String Octets

namespace Client

/-- A client that keeps nothing and passes coded content on as it is. -/
def plain : Client := ⟨fun _ _ ↦ .empty, fun _ chunks ↦ .ok chunks.flatten⟩

/-- The content of a reply as the client reads it. -/
def content (k : Client) (r : Reply) : Except String Octets :=
  if r.codings = [] then .ok r.chunks.flatten else k.decode r.codings r.chunks

theorem content_of_plain (k : Client) {r : Reply} (h : r.codings = []) :
    k.content r = .ok r.chunks.flatten := by
  rw [content, if_pos h]

end Client

/-- The answer to the next request and those to later ones, and the client that receives them. -/
structure Script where
  next : Answer
  later : List Answer
  client : Client

def Script.advance (s : Script) : Script :=
  match s.later with
  | [] => s
  | a :: rest => { s with next := a, later := rest }

@[simp] theorem Script.client_advance (s : Script) : s.advance.client = s.client := by
  unfold advance
  split <;> rfl

/-- A request that reached the peer, and the trust of the handle that carried it. -/
structure Sent where
  request : Request
  trust : Trust

structure Network where
  /-- Handles are not opened but one was given ready-made. -/
  custom : Bool
  script : Script
  /-- The failures of the openings to come. -/
  openings : List (Option FailureId)
  /-- All handles so far, the current one first. -/
  handles : List Handle
  sent : List Sent
  streamCloses : Nat
  /-- What the client of the current handle has been asked to keep. -/
  deposits : List Deposit

namespace Network

def start (custom : Bool) (script : Script) (openings : List (Option FailureId)) : Network where
  custom := custom
  script := script
  openings := openings
  handles := if custom then [.opened .custom] else []
  sent := []
  streamCloses := 0
  deposits := []

/-- Opens a handle, which becomes the current one. A handle given ready-made is open already. -/
def openHandle (context : Option String) (n : Network) : Except FailureId Unit × Network :=
  if n.custom then (.ok (), n)
  else
    let trust := match context with
      | none => Trust.common
      | some c => .context c
    match n.openings with
    | some id :: rest => (.error id, { n with openings := rest })
    | none :: rest => (.ok (), { n with
        openings := rest, handles := .opened trust :: n.handles, deposits := [] })
    | [] => (.ok (), { n with handles := .opened trust :: n.handles, deposits := [] })

/-- Closes the current handle. -/
def closeHandle (n : Network) : Network :=
  match n.handles with
  | [] => n
  | h :: rest => { n with handles := h.close :: rest }

/-- The current handle, if it is open. -/
def usable? (n : Network) : Option Handle :=
  match n.handles with
  | [] => none
  | h :: _ => if h.isOpen then some h else none

def deliver (r : Request) (t : Trust) (n : Network) : Network :=
  { n with sent := n.sent ++ [⟨r, t⟩], script := n.script.advance }

/-- What the client has for a request to the address. -/
def cookies (n : Network) (t : Address.Target) : Cookies :=
  if n.deposits.isEmpty then .empty else n.script.client.cookies n.deposits t

/-- The client keeps what the reply to a request asks for. -/
def keep (asked : Address.Target) (r : Reply) (n : Network) : Network :=
  { n with deposits := n.deposits ++ r.deposits asked }

def countClose (n : Network) : Network := { n with streamCloses := n.streamCloses + 1 }

@[simp] theorem sent_closeHandle (n : Network) : n.closeHandle.sent = n.sent := by
  unfold closeHandle
  split <;> rfl

@[simp] theorem usable?_closeHandle (n : Network) : n.closeHandle.usable? = none := by
  rcases n with ⟨_, _, _, handles, _, _, _⟩
  cases handles <;> simp [closeHandle, usable?]

theorem cookies_of_nil {n : Network} (h : n.deposits = []) (t : Address.Target) :
    n.cookies t = .empty := by
  rw [cookies, h]
  rfl

theorem keep_of_not_setsCookies {r : Reply} (h : r.setsCookies = false)
    (asked : Address.Target) (n : Network) : n.keep asked r = n := by
  rw [keep, Reply.deposits, h, if_neg Bool.false_ne_true, List.append_nil]

end Network

end SecureExchange
