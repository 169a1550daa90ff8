import SecureExchange.Failure.Classified
import SecureExchange.Failure.Fault

/-!
# Recorded failures

Failures are recorded in order of their occurrence and refer to each other by their place. Each has
at most one declared cause, and at most one context: the failure that was being handled when it
occurred. The links may run in circles.
-/

namespace SecureExchange.Failure

def Classified.BuildError.toFault (e : Classified.BuildError) : Fault :=
  match e with
  | .unexpectedArgument .. => .invalidType e.message
  | .kindOfOtherFamily _ => .invalidValue e.message

/-- The kind of a code. Other values have none, and lists and maps cannot be looked up. -/
def Kind.ofDatum (given : Datum) : Except Fault (Option Kind) :=
  match given with
  | .text code => .ok (ofCode? code)
  | .list _ | .map _ => .error (.invalidType ("unhashable type: '" ++ given.typeName ++ "'"))
  | _ => .ok none

inductive Failure
  | fault (f : Fault)
  | classified (e : Classified)

namespace Failure

def text : Failure → String
  | .fault f => f.text
  | .classified e => e.message

def fault? : Failure → Option Fault
  | .fault f => some f
  | .classified _ => none

def classified? : Failure → Option Classified
  | .fault _ => none
  | .classified e => some e

end Failure

structure Incident where
  failure : Failure
  cause : Option FailureId
  context : Option FailureId

/-- All failures recorded so far. -/
abbrev Graph := List Incident

namespace Graph

def text (g : Graph) (id : FailureId) : String :=
  match g[id]? with
  | some n => n.failure.text
  | none => ""

def fault? (g : Graph) (id : FailureId) : Option Fault := g[id]?.bind (·.failure.fault?)

def classified? (g : Graph) (id : FailureId) : Option Classified :=
  g[id]?.bind (·.failure.classified?)

def class? (g : Graph) (id : FailureId) : Option FaultClass := (g.fault? id).map (·.cls)

/-- Records a failure that occurs while `handling` is being handled. A classified error declares
what it wraps as its cause. -/
def record (g : Graph) (f : Failure) (handling : Option FailureId) : FailureId × Graph :=
  let cause := match f with
    | .classified e => e.wrapped
    | .fault _ => none
  (g.length, g ++ [⟨f, cause, handling⟩])

/-- Marks that a recorded failure occurs while `handling` is being handled. -/
def handleDuring (g : Graph) (id : FailureId) (handling : Option FailureId) : Graph :=
  match handling with
  | none => g
  | some h => if h = id then g else g.modify id fun n ↦ { n with context := some h }

def declareCause (g : Graph) (id : FailureId) (cause : FailureId) : Graph :=
  g.modify id fun n ↦ { n with cause := some cause }

def wrapping (g : Graph) (id : FailureId) : Classified.Wrapping := ⟨id, g.text id⟩

@[simp] theorem length_record (g : Graph) (f : Failure) (h : Option FailureId) :
    (g.record f h).2.length = g.length + 1 := by
  simp [record]

theorem getElem?_record_of_lt {g : Graph} {id : FailureId} (hid : id < g.length) (f : Failure)
    (h : Option FailureId) : (g.record f h).2[id]? = g[id]? := by
  simp [record, List.getElem?_append_left hid]

@[simp] theorem length_handleDuring (g : Graph) (id : FailureId) (h : Option FailureId) :
    (g.handleDuring id h).length = g.length := by
  unfold handleDuring
  split
  · rfl
  · split <;> simp

end Graph

end SecureExchange.Failure
