import SecureExchange.Address.Join
import SecureExchange.Address.Target
import SecureExchange.Text.Charset

/-!
# Locations of redirects

A reply may name another location. It is read as a target, completed by the target that was asked,
and checked for the request that would be sent there. `resolve` answers that target, or why there
is none.
-/

namespace SecureExchange.Address

open Text

namespace Redirect

inductive Fault
  | location (f : Target.Fault)
  | completed (f : Target.Fault)
  | reference (f : Reference.Fault)
  | hostName (f : HostName.Fault)
  | partTooLong (name : String)
  | fragment (c : Char) (index : Nat)
  | host (e : Unencodable)

/-- The first part of a target, as it is written, that is too long to be read anew. -/
def longPart? (t : Target) : Option String :=
  let parts : List (String × List Char) :=
    [("authority", t.authority), ("path", t.path), ("query", t.query.getD []),
     ("fragment", t.fragment.getD [])]
  (parts.find? fun p ↦ decide (Target.maxLength < p.2.length)).map (·.1)

/-- Parts that replace those of `t`, read anew. -/
def reread (t : Target) (p : Target.Parts) : Except Fault Target :=
  match longPart? t with
  | some name => .error (.partTooLong name)
  | none => p.normalize.mapError .completed

/-- The target with another host. -/
def withHost (t : Target) (host : List Char) : Except Fault Target :=
  reread t { t.parts with host := Target.bracketed host }

/-- The target with another fragment, which must be visible. -/
def withFragment (t : Target) (fragment : List Char) : Except Fault Target :=
  match longPart? t, fragment.find? Target.isControl with
  | none, some c => .error (.fragment c (fragment.takeWhile (!Target.isControl ·)).length)
  | _, _ => reread t { t.parts with fragment := some fragment }

/-- A location with a scheme but no host takes over the host that was asked. -/
def borrowHost (asked location : Target) : Except Fault Target :=
  if location.scheme.isEmpty then .ok location
  else match location.readableHost with
    | .error e => .error (.hostName e)
    | .ok host =>
      if host.isEmpty then
        match asked.readableHost with
        | .error e => .error (.hostName e)
        | .ok own => withHost location own
      else .ok location

def complete (asked location : Target) : Except Fault Target :=
  if !location.scheme.isEmpty && !location.host.isEmpty then .ok location
  else match Reference.join asked.render location.render with
    | .error e => .error (.reference e)
    | .ok s => (Target.parse s).mapError .completed

/-- A location without a fragment takes over the one that was asked for, in its decoded form. -/
def takeFragment (asked location : Target) : Except Fault Target :=
  let decoded := Percent.decode (asked.fragment.getD [])
  if decoded.isEmpty || !(location.fragment.getD []).isEmpty then .ok location
  else withFragment location decoded

def portOrDefault (t : Target) : Option Int :=
  match t.port with
  | some p => some p
  | none =>
    if t.scheme = "http".toList then some 80
    else if t.scheme = "https".toList then some 443
    else none

/-- Scheme, host and port are the same. -/
def isSamePlace (asked location : Target) : Bool :=
  match location.readableHost, asked.readableHost with
  | .ok there, .ok here => decide (location.scheme = asked.scheme ∧ there = here
      ∧ portOrDefault location = portOrDefault asked)
  | _, _ => false

/-- A request to another place states its host in ASCII. -/
def checkHost (asked location : Target) : Except Fault Unit :=
  match location.readableHost, asked.readableHost with
  | .error e, _ => .error (.hostName e)
  | .ok _, .error e => .error (.hostName e)
  | .ok _, .ok _ =>
    if isSamePlace asked location then .ok ()
    else match Charset.ascii.encode location.hostPort with
      | .error e => .error (.host e)
      | .ok _ => .ok ()

def resolve (asked : Target) (location : List Char) : Except Fault Target :=
  match Target.parse location with
  | .error e => .error (.location e)
  | .ok there =>
    match borrowHost asked there with
    | .error e => .error e
    | .ok there =>
      match complete asked there with
      | .error e => .error e
      | .ok there =>
        match takeFragment asked there with
        | .error e => .error e
        | .ok there =>
          match checkHost asked there with
          | .error e => .error e
          | .ok () => .ok there

end Redirect

end SecureExchange.Address
