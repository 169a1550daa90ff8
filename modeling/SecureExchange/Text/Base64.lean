import SecureExchange.Text.Utf8

/-!
# Base 64

Three octets become four characters; a last group of one or two is filled up with equals signs.

Texts are read leniently: blanks and line ends are skipped wherever they stand, and a hyphen ends a
text. `holdsData` says whether a text can be read at all and stands for at least one octet.
-/

namespace SecureExchange.Text.Base64

def digit (n : Nat) : Char :=
  if n < 26 then Char.ofNat (0x41 + n)
  else if n < 52 then Char.ofNat (0x47 + n)
  else if n < 62 then Char.ofNat (n - 4)
  else if n = 62 then '+'
  else '/'

def encode : Octets → List Char
  | [] => []
  | [a] =>
    let n := a.toNat * 16
    [digit (n / 64), digit (n % 64), '=', '=']
  | [a, b] =>
    let n := (a.toNat * 256 + b.toNat) * 4
    [digit (n / 4096), digit (n / 64 % 64), digit (n % 64), '=']
  | a :: b :: c :: rest =>
    let n := (a.toNat * 256 + b.toNat) * 256 + c.toNat
    digit (n / 262144) :: digit (n / 4096 % 64) :: digit (n / 64 % 64) :: digit (n % 64)
      :: encode rest

/-! ### Reading -/

/-- What a character of a text is. -/
inductive Role
  | digit
  | padding
  | skipped
  | ending
  | foreign
  deriving DecidableEq, Repr

def roleOf (b : UInt8) : Role :=
  let c := Char.ofNat b.toNat
  if c.isAlphanum || c == '+' || c == '/' then .digit
  else if c == '=' then .padding
  else if c == ' ' || c == '\t' || c == '\r' || c == '\n' then .skipped
  else if c == '-' then .ending
  else .foreign

/-- The numbers of digits and of equals signs in a text, unless it is ill-formed: a foreign
character, or anything but two equals signs behind the first. -/
def measure : Nat → Nat → Octets → Option (Nat × Nat)
  | digits, padding, [] => some (digits, padding)
  | digits, padding, b :: rest =>
    match roleOf b with
    | .digit => if padding = 0 then measure (digits + 1) 0 rest else none
    | .padding => if padding < 2 then measure digits (padding + 1) rest else none
    | .skipped => measure digits padding rest
    | .ending => some (digits, padding)
    | .foreign => none

/-- The text consists of whole groups and is not empty. -/
def holdsData (s : Octets) : Bool :=
  match measure 0 0 s with
  | some (digits, padding) => (digits + padding) % 4 == 0 && digits != 0
  | none => false

@[simp] theorem holdsData_nil : holdsData [] = false := rfl

end SecureExchange.Text.Base64
