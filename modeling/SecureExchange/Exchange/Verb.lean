import SecureExchange.Failure.Graph

/-!
# Verbs

The verbs of requests. Tokens are matched as they are written; only two verbs let a request carry a
body.
-/

namespace SecureExchange

inductive Verb
  | get
  | post
  | put
  | delete
  | patch
  | head
  | options
  deriving DecidableEq, Repr

namespace Verb

def all : List Verb := [.get, .post, .put, .delete, .patch, .head, .options]

def token : Verb → String
  | .get => "GET"
  | .post => "POST"
  | .put => "PUT"
  | .delete => "DELETE"
  | .patch => "PATCH"
  | .head => "HEAD"
  | .options => "OPTIONS"

def allowsBody : Verb → Bool
  | .post | .put => true
  | _ => false

/-- Verbs whose requests state their length even when they carry nothing. -/
def expectsLength : Verb → Bool
  | .post | .put | .patch => true
  | _ => false

def ofToken? (s : String) : Option Verb := all.find? (·.token == s)

/-- The verb that a value names. Only texts name verbs. -/
def ofDatum? : Datum → Option Verb
  | .text s => ofToken? s
  | _ => none

theorem ofToken?_token (v : Verb) : ofToken? v.token = some v := by
  cases v <;> decide

theorem token_eq_of_ofToken? {s : String} {v : Verb} (h : ofToken? s = some v) : v.token = s := by
  simpa using List.find?_some h

open Failure in
/-- Records that a value names no verb: its bare refusal, and the error that wraps that. -/
def refuse (given : Datum) (g : Graph) : FailureId × Graph :=
  let (bare, g) :=
    g.record (.fault (.invalidValue (given.literal ++ " is not a valid HttpsMethod"))) none
  let e := Classified.ofClass .invalidArgument (some ("Unsupported HTTPS method " ++ given.literal))
    (some (g.wrapping bare)) [("method", .text given.display)]
  g.record (.classified e) (some bare)

end Verb

end SecureExchange
