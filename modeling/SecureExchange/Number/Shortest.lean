import SecureExchange.Number.Binary64

/-!
# The shortest decimal form

A number is written with the fewest digits that read back as the same number, and of these with the
nearest. `interval` is the range of reals that round to a number; a decimal grid is tried for one
digit, two digits and so on until one of the two neighbours of the number lies in it.
-/

namespace SecureExchange.Binary64

/-- Bounds, in quarter units, of what rounds to a positive magnitude. The lower half of the gap is
narrower below a power of two. -/
structure Interval where
  low : Nat
  high : Nat
  closed : Bool

def interval (units : Nat) : Interval :=
  let k := lastBit units
  let weight := Nat.pow 2 k
  let m := units / weight
  let down := if k = 0 ∨ m ≠ Nat.pow 2 52 then 2 * weight else weight
  ⟨4 * units - down, 4 * units + 2 * weight, m % 2 == 0⟩

/-- `value / scale`, in quarter units, rounds to the magnitude that `i` was taken from. -/
def Interval.holds (i : Interval) (value scale : Nat) : Bool :=
  if i.closed then decide (i.low * scale ≤ value) && decide (value ≤ i.high * scale)
  else decide (i.low * scale < value) && decide (value < i.high * scale)

/-- Digits `d` and an exponent `e` stand for `d` times ten to the power `e`. -/
structure Decimal where
  digits : Nat
  exponent : Int
  deriving DecidableEq, Repr

def decimalLength (n : Nat) : Nat := (Nat.toDigits 10 n).length

/-- All decimal work is done on the number times ten to this power, which is whole enough for the
last digit of every grid. -/
def decimalShift : Nat := 400

/-- The position of the leading digit, counted from the units digit. -/
def leading (units : Nat) : Int :=
  (decimalLength (units * Nat.pow 10 decimalShift / one) : Int) - 1 - decimalShift

/-- The neighbour of the number on the grid of `count` digits that reads back, the nearer of two. -/
def onGrid? (units count : Nat) : Option Decimal :=
  let e := leading units - count + 1
  let scale := Nat.pow 10 decimalShift
  let grid := Nat.pow 10 (e + decimalShift).toNat
  let value := units * scale
  let below := value / (one * grid)
  let above := below + 1
  let reads (d : Nat) : Bool := (interval units).holds (4 * d * grid * one) scale
  let gapBelow := value - below * grid * one
  let gapAbove := above * grid * one - value
  match reads below, reads above with
  | true, true =>
    if gapBelow < gapAbove ∨ (gapBelow = gapAbove ∧ below % 2 = 0) then some ⟨below, e⟩
    else some ⟨above, e⟩
  | true, false => some ⟨below, e⟩
  | false, true => some ⟨above, e⟩
  | false, false => none

def stripZeros : Nat → Decimal → Decimal
  | 0, d => d
  | n + 1, d =>
    if d.digits % 10 = 0 ∧ d.digits ≠ 0 then stripZeros n ⟨d.digits / 10, d.exponent + 1⟩ else d

/-- Seventeen digits always read back. -/
def shortest (units : Nat) : Decimal :=
  match (List.range 17).findSome? fun n ↦ onGrid? units (n + 1) with
  | some d => stripZeros 17 d
  | none => ⟨0, 0⟩

/-- How a number is spelled out: plainly when the position of its leading digit is at least `least`
and below `plainBelow`, and with an exponent of at least two digits otherwise. -/
structure Spelling where
  least : Int
  plainBelow : Int

def standard : Spelling := ⟨-4, 16⟩

def spellExponent (e : Int) : String :=
  let n := toString e.natAbs
  "e" ++ (if e < 0 then "-" else "+") ++ (if n.length < 2 then "0" ++ n else n)

/-- A number that is written plainly always shows a fraction, if only a zero. -/
def Spelling.spell (s : Spelling) (d : Decimal) : String :=
  let ds := Nat.toDigits 10 d.digits
  let top : Int := d.exponent + ds.length - 1
  if s.least ≤ top ∧ top < s.plainBelow then
    if 0 ≤ d.exponent then
      String.ofList (ds ++ List.replicate d.exponent.toNat '0') ++ ".0"
    else if 0 ≤ top then
      String.ofList (ds.take (top.toNat + 1) ++ '.' :: ds.drop (top.toNat + 1))
    else
      String.ofList ('0' :: '.' :: List.replicate (-top - 1).toNat '0' ++ ds)
  else
    let fraction := match ds.drop 1 with
      | [] => []
      | rest => '.' :: rest
    String.ofList (ds.take 1 ++ fraction) ++ spellExponent top

def text : Binary64 → String
  | .nan => "nan"
  | .infinity negative => if negative then "-inf" else "inf"
  | .finite negative units =>
    (if negative then "-" else "")
      ++ (if units = 0 then "0.0" else standard.spell (shortest units))

end SecureExchange.Binary64
