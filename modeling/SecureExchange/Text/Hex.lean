/-!
# Hexadecimal digits

Reading and writing numbers in base sixteen, in either letter case.
-/

namespace SecureExchange.Text

/-- The digits of base sixteen, written with small or capital letters. -/
inductive HexCase
  | small
  | capital
  deriving DecidableEq

def hexDigit (k : HexCase) (d : Nat) : Char :=
  if d < 10 then Char.ofNat (0x30 + d)
  else match k with
    | .small => Char.ofNat (0x57 + d)
    | .capital => Char.ofNat (0x37 + d)

def hexValue? (c : Char) : Option Nat :=
  let n := c.toNat
  if 0x30 ≤ n ∧ n ≤ 0x39 then some (n - 0x30)
  else if 0x41 ≤ n ∧ n ≤ 0x46 then some (n - 0x37)
  else if 0x61 ≤ n ∧ n ≤ 0x66 then some (n - 0x57)
  else none

def isHexDigit (c : Char) : Bool := (hexValue? c).isSome

/-- The lowest `width` digits of `n`, the highest of them first. -/
def hexDigits (k : HexCase) : Nat → Nat → List Char
  | 0, _ => []
  | width + 1, n => hexDigits k width (n / 16) ++ [hexDigit k (n % 16)]

@[simp] theorem length_hexDigits (k : HexCase) (width n : Nat) :
    (hexDigits k width n).length = width := by
  induction width generalizing n with
  | zero => rfl
  | succ w ih => simp [hexDigits, ih]

theorem hexValue?_hexDigit (k : HexCase) {d : Nat} (h : d < 16) :
    hexValue? (hexDigit k d) = some d := by
  have all : ∀ k : HexCase, ∀ e ∈ List.range 16, hexValue? (hexDigit k e) = some e := by
    intro k
    cases k <;> decide
  exact all k d (List.mem_range.mpr h)

end SecureExchange.Text
