/-!
# Classes of characters

A class is a set of characters given by inclusive ranges of code points.
`contains_iff` says that membership is exactly lying in one of the ranges.
-/

namespace SecureExchange.Text

structure CharClass where
  ranges : Array (Nat × Nat)

namespace CharClass

def contains (k : CharClass) (c : Char) : Bool :=
  k.ranges.any fun r ↦ decide (r.1 ≤ c.toNat) && decide (c.toNat ≤ r.2)

theorem contains_iff {k : CharClass} {c : Char} :
    k.contains c = true ↔ ∃ r ∈ k.ranges, r.1 ≤ c.toNat ∧ c.toNat ≤ r.2 := by
  rw [contains, Array.any_eq_true']
  simp

end CharClass

def isAscii (c : Char) : Bool := decide (c.toNat < 0x80)

/-- A text that holds ASCII characters only. -/
def allAscii (s : List Char) : Bool := s.all isAscii

end SecureExchange.Text
