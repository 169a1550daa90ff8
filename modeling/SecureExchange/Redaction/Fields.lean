import SecureExchange.Datum
import SecureExchange.Text.Blank
import SecureExchange.Text.Case
import SecureExchange.Text.Cut

/-!
# Redacted fields

Values stored under keys that name credentials are replaced before a map is logged, at every level
that is reached through maps. A setting of the environment turns this off.
-/

namespace SecureExchange.Redaction

open SecureExchange.Text

def placeholder : String := "***REDACTED***"

/-- A key that holds one of these, in any letter case, names a credential. -/
def sensitiveWords : List String :=
  ["authorization", "auth", "signature", "sas", "token", "secret", "key", "password"]

def isSensitiveKey (key : String) : Bool :=
  let small := lowerChars key.toList
  sensitiveWords.any fun w ↦ occurs w.toList small

/-- A setting is on when it holds one of four words, blanks and letter case aside. -/
def isOn (setting : Option String) : Bool :=
  let word := lowerChars (trim (setting.getD "").toList)
  ["true", "1", "yes", "on"].contains (String.ofList word)

mutual

def value (unredacted : Bool) : Datum → Datum
  | .map entries => .map (fields unredacted entries)
  | x => x

/-- The map with the values of sensitive keys replaced, unless it is to be shown unredacted. -/
def fields (unredacted : Bool) : List (String × Datum) → List (String × Datum)
  | [] => []
  | (k, x) :: rest =>
    (k, if !unredacted && isSensitiveKey k then .text placeholder else value unredacted x)
      :: fields unredacted rest

end

end SecureExchange.Redaction
