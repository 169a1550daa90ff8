import SecureExchange.Number.Shortest

/-!
# Decimal forms of a given length

A magnitude written with a given number of decimal places, with a given number of digits and an
exponent, or in the shorter of the two ways. The last digit is rounded, halves to the even
neighbour.
-/

namespace SecureExchange.Binary64

inductive DecimalForm
  | fixed
  | scientific
  | general
  deriving DecidableEq, Repr

/-- Whole part and decimal places of `n` units of the last place. The point is left out before no
places, unless it is kept. -/
def placePoint (n places : Nat) (keepPoint : Bool) : List Char :=
  let digits := Nat.toDigits 10 n
  let digits := List.replicate (places + 1 - digits.length) '0' ++ digits
  let whole := digits.take (digits.length - places)
  let fraction := digits.drop (digits.length - places)
  if fraction.isEmpty && !keepPoint then whole else whole ++ '.' :: fraction

def fixedForm (units places : Nat) (keepPoint : Bool) : List Char :=
  placePoint (roundQuotient (units * Nat.pow 10 places) one) places keepPoint

/-- The digits in front of an exponent, `places` of them behind the first, and the exponent. -/
def scientificDigits (units places : Nat) : Nat × Int :=
  if units = 0 then (0, 0)
  else
    let top := leading units
    let shift := top - places
    let n :=
      if 0 ≤ shift then roundQuotient units (one * Nat.pow 10 shift.toNat)
      else roundQuotient (units * Nat.pow 10 (-shift).toNat) one
    if n = Nat.pow 10 (places + 1) then (Nat.pow 10 places, top + 1) else (n, top)

def scientificForm (units places : Nat) (keepPoint : Bool) : List Char :=
  let (n, top) := scientificDigits units places
  placePoint n places keepPoint ++ (spellExponent top).toList

/-- Drops zeros at the end of the decimal places, and the point if none are left. -/
def stripPlaces (s : List Char) : List Char :=
  if s.contains '.' then
    let kept := s.reverse.dropWhile (· == '0')
    (match kept with
      | '.' :: rest => rest
      | kept => kept).reverse
  else s

/-- `digits` digits in all, with an exponent only for magnitudes far from one. -/
def generalForm (units digits : Nat) (keepAll : Bool) : List Char :=
  let digits := max digits 1
  let (n, top) := scientificDigits units (digits - 1)
  let tidy (s : List Char) : List Char := if keepAll then s else stripPlaces s
  if standard.least ≤ top ∧ top < digits then
    tidy (fixedForm units (digits - 1 - top).toNat keepAll)
  else tidy (placePoint n (digits - 1) keepAll) ++ (spellExponent top).toList

/-- A number without its sign. -/
def decimalText (form : DecimalForm) (places : Nat) (keepPoint : Bool) : Binary64 → List Char
  | .nan => "nan".toList
  | .infinity _ => "inf".toList
  | .finite _ units =>
    match form with
    | .fixed => fixedForm units places keepPoint
    | .scientific => scientificForm units places keepPoint
    | .general => generalForm units places keepPoint

@[simp] theorem scientificDigits_zero (places : Nat) : scientificDigits 0 places = (0, 0) := rfl

end SecureExchange.Binary64
