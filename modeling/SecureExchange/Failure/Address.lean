import SecureExchange.Address.Redirect
import SecureExchange.Failure.Fault

/-!
# Faults of addresses

The faults that unreadable addresses, host names and locations are raised as.
-/

namespace SecureExchange

open Failure

namespace Address

def Target.Fault.toFault (f : Target.Fault) : Failure.Fault := .http .invalidAddress f.message

def Reference.Fault.toFault (f : Reference.Fault) : Failure.Fault := .invalidValue f.message

/-- The name of the class of faults that a refused host name belongs to. -/
def HostName.Fault.className : HostName.Fault → String
  | .label f _ =>
    match f with
    | .outOfContext _ | .joinerOutOfContext _ => "InvalidCodepointContext"
    | .notPermitted _ => "InvalidCodepoint"
    | .unknownDirection _ | .undirectedStart | .directionInRightToLeft _
    | .directionInLeftToRight _ | .mixedNumerals | .undirectedEnd => "IDNABidiError"
    | _ => "IDNAError"
  | _ => "IDNAError"

def HostName.Fault.toFault (f : HostName.Fault) : Failure.Fault := ⟨.other f.className, f.message⟩

/-- The fault of a location, and the one that is being handled when it is raised. -/
def Redirect.Fault.toFaults : Redirect.Fault → Failure.Fault × Option Failure.Fault
  | .location f =>
    (.http .remoteProtocol ("Invalid URL in location header: " ++ f.message ++ "."), f.toFault)
  | .completed f => (f.toFault, none)
  | .reference f => (f.toFault, none)
  | .hostName f => (f.toFault, none)
  | .partTooLong name => (.http .invalidAddress ("URL component '" ++ name ++ "' too long"), none)
  | .fragment c index =>
    (.http .invalidAddress
      ("Invalid non-printable ASCII character in URL fragment component, "
        ++ Target.quoteText [c] ++ " at position " ++ toString index ++ "."), none)
  | .host e => (.unencodable e.message, none)

end Address

end SecureExchange
