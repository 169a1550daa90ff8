import SecureExchange.Number.Binary64
import SecureExchange.Text.Blank
import SecureExchange.Text.Case
import SecureExchange.Text.Cut
import SecureExchange.Text.Digit

/-!
# Number literals

A literal of ASCII digits alone, with an optional sign, is a whole number. Any other names a binary
number by its decimal digits, or an infinity, or no number. There may be blanks around it, its
digits may be of any script, and single underscores may stand between digits.
-/

namespace SecureExchange

/-- A number as it was given: whole numbers and binary ones print differently. -/
inductive Number
  | whole (i : Int)
  | binary (x : Binary64)
  deriving DecidableEq, Repr

namespace Number

open Text

def digitsValue (s : List Char) : Nat := s.foldl (fun n c ↦ 10 * n + (c.toNat - 0x30)) 0

def isDigits (s : List Char) : Bool := !s.isEmpty && s.all fun c ↦ c.isDigit

/-- An optional sign, and the rest. -/
def splitSign : List Char → Bool × List Char
  | '-' :: rest => (true, rest)
  | '+' :: rest => (false, rest)
  | s => (false, s)

def signed (negative : Bool) (n : Nat) : Int := if negative then -(n : Int) else n

def readWhole? (s : List Char) : Option Int :=
  let (negative, ds) := splitSign s
  if isDigits ds then some (signed negative (digitsValue ds)) else none

/-- A digit of any script, as the ASCII digit. -/
def plainDigit (c : Char) : Char :=
  match digitValue? c with
  | some d => Char.ofNat (0x30 + d)
  | none => c

/-- The text without underscores, if they all stand between digits. -/
def dropUnderscores? (afterDigit : Bool) : List Char → Option (List Char)
  | [] => some []
  | '_' :: c :: rest =>
    if afterDigit && c.isDigit then (dropUnderscores? true rest).map (c :: ·) else none
  | c :: rest => if c = '_' then none else (dropUnderscores? c.isDigit rest).map (c :: ·)

def readPlain? (s : List Char) : Option Binary64 :=
  let (negative, body) := splitSign (s.map lowerAscii)
  if body = "inf".toList ∨ body = "infinity".toList then some (.infinity negative)
  else if body = "nan".toList then some .nan
  else
    let (mantissa, power) := cut 'e' body
    let (units, fraction) := cut '.' mantissa
    let fraction := fraction.getD []
    let digits := units ++ fraction
    let exponent := match power with
      | none => some 0
      | some p => readWhole? p
    match isDigits digits, exponent with
    | true, some e =>
      some (Binary64.ofDecimal negative (digitsValue digits) (e - fraction.length))
    | _, _ => none

def readBinary? (s : List Char) : Option Binary64 :=
  (dropUnderscores? false ((trim s).map plainDigit)).bind readPlain?

def read? (s : String) : Option Number :=
  match readWhole? s.toList with
  | some i => some (.whole i)
  | none => (readBinary? s.toList).map .binary

end Number

end SecureExchange
