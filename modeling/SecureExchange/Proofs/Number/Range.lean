import Mathlib.Algebra.Group.Nat.Defs
import SecureExchange.Number.Binary64

/-!
# The range of binary numbers

Where rounding leaves the finite numbers. A magnitude is rounded to 53 bits, so that half a bit
below a power of two it is rounded up to it (`roundUnits_lt_iff`). The whole numbers that have a
finite number next to them are those below `wholeBound` (`ofInt?_isSome_iff`).
-/

namespace SecureExchange.Binary64

variable {n d m k : Nat}

theorem roundQuotient_cases (n d : Nat) :
    roundQuotient n d = n / d ∨ roundQuotient n d = n / d + 1 := by
  unfold roundQuotient
  dsimp only
  split
  · exact .inl rfl
  · split
    · exact .inr rfl
    · omega

/-- A quotient is rounded up to an even number from half of one below it. -/
theorem roundQuotient_lt_iff (hd : 0 < d) (hm : m % 2 = 0) :
    roundQuotient n d < m ↔ 2 * n + d < 2 * (d * m) := by
  have hdivide := Nat.div_add_mod n d
  have hrest := Nat.mod_lt n hd
  have hcases := roundQuotient_cases n d
  rcases Nat.lt_trichotomy (n / d + 1) m with hbelow | hnext | habove
  · have hscaled : d * (n / d + 2) ≤ d * m := Nat.mul_le_mul_left d hbelow
    rw [Nat.mul_add] at hscaled
    omega
  · have hscaled : d * m = d * (n / d) + d := by rw [← hnext, Nat.mul_succ]
    have hround : roundQuotient n d < m ↔ 2 * (n % d) < d := by
      simp only [roundQuotient]
      split
      · omega
      · split <;> omega
    omega
  · have hscaled : d * m ≤ d * (n / d) := Nat.mul_le_mul_left d (Nat.le_of_lt_succ habove)
    omega

theorem lt_two_pow_lastBit (n : Nat) : n < 2 ^ (53 + lastBit n) :=
  Nat.lt_of_lt_of_le Nat.lt_log2_self
    (Nat.pow_le_pow_right Nat.two_pos (by unfold lastBit; omega))

theorem two_pow_lastBit_le (h : 0 < lastBit n) : 2 ^ (52 + lastBit n) ≤ n := by
  have hlog : n.log2 = 52 + lastBit n := by
    unfold lastBit at h ⊢
    omega
  have hn : n ≠ 0 := by
    rintro rfl
    simp [lastBit] at h
  rw [← hlog]
  exact Nat.log2_self_le hn

/-- Magnitudes of `53 + k` bits are exceeded from half a bit below the next power of two. -/
theorem roundUnits_lt_iff (n k : Nat) :
    roundUnits n 1 < 2 ^ (53 + k) ↔ 2 * n + 2 ^ k < 2 * 2 ^ (53 + k) := by
  have hunits : roundUnits n 1 = roundQuotient n (2 ^ lastBit n) * 2 ^ lastBit n := by
    simp [roundUnits]
  have hpos : 0 < 2 ^ lastBit n := Nat.two_pow_pos _
  have hcases := roundQuotient_cases n (2 ^ lastBit n)
  rw [hunits]
  rcases Nat.lt_trichotomy (lastBit n) k with hbelow | rfl | habove
  · -- The magnitude lies below half of the bound, and rounding does not double it.
    have hn := lt_two_pow_lastBit n
    have hhalf : 2 * 2 ^ (53 + lastBit n) ≤ 2 ^ (53 + k) := by
      rw [← Nat.pow_succ']
      exact Nat.pow_le_pow_right Nat.two_pos (by omega)
    have hbit : 2 ^ k ≤ 2 ^ (53 + k) := Nat.pow_le_pow_right Nat.two_pos (by omega)
    have hquotient : n / 2 ^ lastBit n < 2 ^ 53 := by
      rwa [Nat.div_lt_iff_lt_mul hpos, ← Nat.pow_add]
    have hrounded : roundQuotient n (2 ^ lastBit n) * 2 ^ lastBit n ≤ 2 ^ (53 + lastBit n) := by
      rw [Nat.pow_add]
      exact Nat.mul_le_mul_right _ (by omega)
    omega
  · rw [Nat.pow_add, Nat.mul_lt_mul_right hpos, roundQuotient_lt_iff hpos (by decide),
      Nat.mul_comm (2 ^ 53)]
  · have hn := two_pow_lastBit_le (n := n) (by omega)
    have hhalf : 2 ^ (53 + k) ≤ 2 ^ (52 + lastBit n) :=
      Nat.pow_le_pow_right Nat.two_pos (by omega)
    have hquotient : 2 ^ 52 ≤ n / 2 ^ lastBit n := by
      rwa [Nat.le_div_iff_mul_le hpos, ← Nat.pow_add]
    have hrounded : 2 ^ (52 + lastBit n) ≤ roundQuotient n (2 ^ lastBit n) * 2 ^ lastBit n := by
      rw [Nat.pow_add]
      exact Nat.mul_le_mul_right _ (by omega)
    have hbit := Nat.two_pow_pos k
    omega

/-- The first whole number without a finite number next to it: half a bit above the largest one. -/
def wholeBound : Nat := 2 ^ 1024 - 2 ^ 970

theorem bound_eq : bound = 2 ^ (53 + 2045) := by decide +kernel

theorem two_mul_bound : 2 * bound = 2 * one * 2 ^ 1024 := by decide +kernel

theorem last_bit_eq : 2 ^ 2045 = 2 * one * 2 ^ 970 := by decide +kernel

theorem one_pos : 0 < one := by decide +kernel

theorem roundUnits_whole_lt_iff (n : Nat) : roundUnits (n * one) 1 < bound ↔ n < wholeBound := by
  have hpos : 0 < 2 * one := Nat.mul_pos Nat.two_pos one_pos
  have hscaled : 2 * (n * one) = 2 * one * n := by rw [Nat.mul_comm n, Nat.mul_assoc]
  have hround := roundUnits_lt_iff (n * one) 2045
  rw [← bound_eq, two_mul_bound, last_bit_eq, hscaled, ← Nat.mul_add,
    Nat.mul_lt_mul_left hpos] at hround
  rw [hround]
  unfold wholeBound
  omega

theorem finite?_ofRatio (negative : Bool) (n d : Nat) :
    (ofRatio negative n d).finite? =
      if roundUnits (n * one) d < bound then some (.finite negative (roundUnits (n * one) d))
      else none := by
  rw [ofRatio]
  -- The bound is a large number that must not be computed.
  generalize bound = b
  split <;> rfl

/-- Exactly the whole numbers in range are rounded to a finite number. -/
theorem ofInt?_isSome_iff (i : Int) : (ofInt? i).isSome = true ↔ i.natAbs < wholeBound := by
  rw [ofInt?, finite?_ofRatio, ← roundUnits_whole_lt_iff]
  generalize bound = b
  split <;> simp_all

end SecureExchange.Binary64
