import SecureExchange.Failure.Graph

/-!
# Classification

Maps any recorded failure to a classified error, which tells whether a retry is presumed to help.
Failures of the secure channel are recognised behind other failures: the walk from a failure follows
its declared cause, or else its context. A walk of as many steps as there are recorded failures
meets everything that a longer one would.
-/

namespace SecureExchange.Failure

namespace Graph

/-- The failure behind a failure. -/
def behind? (g : Graph) (id : FailureId) : Option FailureId :=
  g[id]?.bind fun n ↦ n.cause <|> n.context

def isTls (g : Graph) (id : FailureId) : Bool :=
  match g.class? id with
  | some c => c.isTls
  | none => false

/-- The walk of at most `steps` failures from `id` meets one of the secure channel. -/
def meetsTls (g : Graph) : Nat → FailureId → Bool
  | 0, _ => false
  | steps + 1, id =>
    g.isTls id || match g.behind? id with
      | some next => g.meetsTls steps next
      | none => false

@[simp] theorem meetsTls_zero (g : Graph) (id : FailureId) : g.meetsTls 0 id = false := rfl

theorem meetsTls_of_isTls {g : Graph} {id : FailureId} (h : g.isTls id = true) (steps : Nat) :
    g.meetsTls (steps + 1) id = true := by
  simp [meetsTls, h]

end Graph

/-- Statuses below 500 that are presumed transient. -/
def retryableStatuses : List Int := [408, 429]

def isRetryableStatus (status : Int) : Bool :=
  retryableStatuses.contains status || decide (500 ≤ status)

/-- The error that a fault of class `c` is mapped to, with everything but a classified error behind
it left aside. -/
def classifyFault (c : FaultClass) (throughTls : Bool) (w : Classified.Wrapping) : Classified :=
  if throughTls then .make .transport .security none (some w) none []
  else match c.status? with
    | some status =>
      .make .protocol .httpStatus (some ("Peer responded with HTTP status " ++ toString status))
        (some w) (some (isRetryableStatus status)) [("status_code", .int status)]
    | none =>
      if c.isInputOutput then .ofClass .retryableConnection none (some w) []
      else .ofClass .transport none (some w) []

/-- The classified error for a failure, unless it is one already. -/
def Graph.verdict? (g : Graph) (id : FailureId) : Option Classified :=
  (g.class? id).map fun c ↦ classifyFault c (g.meetsTls g.length id) (g.wrapping id)

/-- An already classified error is returned unchanged; any other failure is wrapped in a new one,
which occurs while `handling` is being handled. -/
def Graph.classify (g : Graph) (id : FailureId) (handling : Option FailureId) :
    FailureId × Graph :=
  match g.verdict? id with
  | some e => g.record (.classified e) handling
  | none => (id, g)

/-- Code and retry decision for a failure, without recording anything. -/
def Graph.retryDecision (g : Graph) (id : FailureId) : Option String × Bool :=
  match g.verdict? id, g.classified? id with
  | some e, _ => (e.code, e.retryable)
  | none, some e => (e.code, e.retryable)
  | none, none => (some Kind.transport.code, Kind.transport.retryable)

end SecureExchange.Failure
