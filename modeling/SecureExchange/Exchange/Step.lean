import SecureExchange.Exchange.Configure
import SecureExchange.Exchange.Connect

/-!
# Operations and runs

The operations that callers have on an exchange, and runs of any number of them. A failing operation
does not end a run.
-/

namespace SecureExchange

open Failure

inductive Operation
  | setVerb (given : Datum)
  | setField (name value : String)
  | setReadTimeout (given : Number)
  | writeBody (body : Octets)
  | setTlsContext (context : Option String)
  | connect
  | readBody
  | readErrorBody
  | status
  | replyFields
  | close
  | requestFields
  | address

/-- What an operation answers. -/
inductive Yield
  | nothing
  | octets (body : Octets)
  | status (code : Int)
  | grouped (fields : OrderedMap String (List String))
  | listed (fields : List (String × String))
  | text (s : String)

namespace Exchange

def requestFields (x : Exchange) : Outcome (List (String × String)) × Exchange :=
  let k := x.fields.readingCharset
  let x := { x with fields := x.fields.settled }
  match listFields k x.fields.entries with
  | .error f => x.raiseFault f.toFault
  | .ok listed => (.ok listed, x)

def yielding {α : Type} (f : α → Yield) (r : Outcome α × Exchange) : Outcome Yield × Exchange :=
  (r.1.map f, r.2)

def step (x : Exchange) (o : Operation) : Outcome Yield × Exchange :=
  match o with
  | .setVerb given => yielding (fun _ ↦ .nothing) (x.setVerb given)
  | .setField name value => yielding (fun _ ↦ .nothing) (x.setField name value)
  | .setReadTimeout given => yielding (fun _ ↦ .nothing) (x.setReadTimeout given)
  | .writeBody body => yielding (fun _ ↦ .nothing) (x.writeBody body)
  | .setTlsContext context => yielding (fun _ ↦ .nothing) (x.setTlsContext context)
  | .connect => yielding (fun _ ↦ .nothing) x.connect
  | .readBody => yielding .octets x.readBody
  | .readErrorBody => yielding .octets x.readErrorBody
  | .status => yielding .status x.status
  | .replyFields => yielding .grouped x.replyFields
  | .close => yielding (fun _ ↦ .nothing) x.close
  | .requestFields => yielding .listed x.requestFields
  | .address => (.ok (.text x.target.text), x)

/-- The exchange after all operations of a run. -/
def run (x : Exchange) : List Operation → Exchange
  | [] => x
  | o :: rest => (x.step o).2.run rest

/-- The outcomes of a run, each with the exchange after it. -/
def trace (x : Exchange) : List Operation → List (Outcome Yield × Exchange)
  | [] => []
  | o :: rest => x.step o :: (x.step o).2.trace rest

@[simp] theorem run_nil (x : Exchange) : x.run [] = x := rfl

@[simp] theorem run_cons (x : Exchange) (o : Operation) (rest : List Operation) :
    x.run (o :: rest) = (x.step o).2.run rest := rfl

theorem run_append (x : Exchange) (a b : List Operation) : x.run (a ++ b) = (x.run a).run b := by
  induction a generalizing x with
  | nil => rfl
  | cons o rest ih => exact ih (x.step o).2

end Exchange

end SecureExchange
