import SecureExchange.Number.Literal
import SecureExchange.Text.Blank
import SecureExchange.Text.Digit

/-!
# Lenient whole numbers

Whole numbers as people write them: blanks around, a sign, decimal digits of any script, and single
underscores between digits.
-/

namespace SecureExchange.Number

open Text

/-- Digits with single underscores between them. `afterDigit` tells whether a digit precedes. -/
def looseDigits? (afterDigit : Bool) : List Char → Option (List Nat)
  | [] => if afterDigit then some [] else none
  | '_' :: rest => if afterDigit then looseDigits? false rest else none
  | c :: rest =>
    match digitValue? c with
    | some d => (looseDigits? true rest).map (d :: ·)
    | none => none

/-- Numbers of more digits are refused. -/
def maxDigits : Nat := 4300

/-- Whether messages can show a number. Whole numbers of too many digits are not written out. -/
def hasText : Number → Bool
  | .whole i => decide (i.natAbs < Nat.pow 10 maxDigits)
  | .binary _ => true

def readLoose? (s : List Char) : Option Int :=
  let (negative, body) := splitSign (trim s)
  match looseDigits? false body with
  | some ds =>
    if ds.length ≤ maxDigits then some (signed negative (ds.foldl (fun n d ↦ 10 * n + d) 0))
    else none
  | none => none

end SecureExchange.Number
