/-!
# Binary numbers of 64 bits

A finite number is a sign and a magnitude counted in units of the smallest positive number,
2 to the power -1074, so every magnitude is a natural number and every comparison is exact. Numbers
are rounded to 53 significant bits, halves to the even neighbour.
-/

namespace SecureExchange

inductive Binary64
  | nan
  | infinity (negative : Bool)
  | finite (negative : Bool) (units : Nat)
  deriving DecidableEq, Repr

namespace Binary64

/-- The number of units in one. -/
def one : Nat := Nat.pow 2 1074

/-- The first magnitude that is too large. -/
def bound : Nat := Nat.pow 2 2098

/-- `n / d` rounded to a whole number, halves to the even neighbour. -/
def roundQuotient (n d : Nat) : Nat :=
  let q := n / d
  let r := n % d
  if 2 * r < d then q
  else if d < 2 * r then q + 1
  else q + q % 2

/-- The weight of the last of the 53 bits of a magnitude, as a power of two. -/
def lastBit (units : Nat) : Nat := units.log2 + 1 - 53

/-- The magnitude nearest to `n / d` units. -/
def roundUnits (n d : Nat) : Nat :=
  let k := lastBit (n / d)
  roundQuotient n (d * Nat.pow 2 k) * Nat.pow 2 k

/-- The number nearest to `n / d`, or an infinity. -/
def ofRatio (negative : Bool) (n d : Nat) : Binary64 :=
  let units := roundUnits (n * one) d
  if units < bound then .finite negative units else .infinity negative

/-- A number that is finite. -/
def finite? : Binary64 → Option Binary64
  | .finite negative units => some (.finite negative units)
  | _ => none

/-- The number nearest to a whole number, unless that is an infinity. -/
def ofInt? (i : Int) : Option Binary64 := (ofRatio (decide (i < 0)) i.natAbs 1).finite?

/-- The number nearest to `digits` times ten to the power `exponent`. -/
def ofDecimal (negative : Bool) (digits : Nat) (exponent : Int) : Binary64 :=
  if digits = 0 then .finite negative 0
  else if 310 < exponent then .infinity negative
  else if 0 ≤ exponent then ofRatio negative (digits * Nat.pow 10 exponent.toNat) 1
  else
    let down := (-exponent).toNat
    if (Nat.log2 digits) + 1080 < 3 * down then .finite negative 0
    else ofRatio negative digits (Nat.pow 10 down)

def isNegative : Binary64 → Bool
  | .nan => false
  | .infinity negative => negative
  | .finite negative units => negative && units != 0

def isZero : Binary64 → Bool
  | .finite _ units => units == 0
  | _ => false

def isNumber : Binary64 → Bool
  | .nan => false
  | _ => true

/-- A whole number of seconds, exactly. -/
def ofNat (n : Nat) : Binary64 := .finite false (n * one)

@[simp] theorem isNegative_nan : isNegative .nan = false := rfl

@[simp] theorem isZero_finite (b : Bool) (u : Nat) : isZero (.finite b u) = (u == 0) := rfl

end Binary64

end SecureExchange
