import Mathlib.Algebra.Group.Int.Defs
import Mathlib.Algebra.Group.Nat.Defs
import Whiteboard.Number.Binary64

/-!
# Rounding integers

The number nearest to an integer of 64 bits is finite, since the format reaches far beyond.
-/

namespace Whiteboard.Binary64

/-- The exponent stands above the fraction, and the sign above both. -/
theorem exponent_ofSize (negative : Bool) {size : Nat} (h : size < 2047 * 2 ^ 52) :
    (ofSize negative size).exponent = size / 2 ^ 52 := by
  have cut : min size (maxExponent <<< 52) = size := by
    rw [maxExponent, Nat.shiftLeft_eq]
    omega
  have bits : (ofSize negative size).bits.toNat = (if negative then 2 ^ 63 else 0) + size := by
    rw [ofSize, cut]
    cases negative <;> simp <;> omega
  rw [exponent, bits, Nat.shiftRight_eq_div_pow, maxExponent]
  cases negative
  · simp
    omega
  · simp
    omega

theorem nearest_le (a d : Nat) : nearest a d ≤ a / d + 1 := by
  unfold nearest
  dsimp only
  split <;> omega

/-- A significand has 53 bits at most, or is the least one of 54. -/
theorem nearest_shift_le (a : Nat) : nearest a (1 <<< (a.log2 - 52)) ≤ 2 ^ 53 := by
  have size : a < 2 ^ 53 * 2 ^ (a.log2 - 52) := by
    rw [← Nat.pow_add]
    exact Nat.lt_of_lt_of_le Nat.lt_log2_self (Nat.pow_le_pow_right (by decide) (by omega))
  have quotient : a / 2 ^ (a.log2 - 52) < 2 ^ 53 := Nat.div_lt_of_lt_mul (by rwa [Nat.mul_comm])
  have le := nearest_le a (2 ^ (a.log2 - 52))
  rw [Nat.one_shiftLeft]
  omega

theorem log2_mul_shift_le {a k : Nat} (h : a < 2 ^ k) (e : Nat) : (a * 1 <<< e).log2 ≤ k + e := by
  have size : a * 1 <<< e < 2 ^ (k + e) := by
    rw [Nat.one_shiftLeft, Nat.pow_add]
    exact Nat.mul_lt_mul_of_pos_right h (Nat.two_pow_pos e)
  by_cases zero : a * 1 <<< e = 0
  · rw [zero, Nat.log2_zero]
    omega
  · exact Nat.le_of_lt ((Nat.log2_lt zero).mpr size)

/-- The number nearest to an integer of 64 bits is finite. -/
theorem isFinite_ofInt {n : Int} (h : n.natAbs < 2 ^ 64) : (ofInt n).isFinite = true := by
  have shift : (n.natAbs * unit).log2 ≤ 64 + 1074 := log2_mul_shift_le h 1074
  have same : ofInt n = ofSize (decide (n < 0)) ((((n.natAbs * unit).log2 - 52) <<< 52) +
      nearest (n.natAbs * unit) (1 <<< ((n.natAbs * unit).log2 - 52))) := by
    rw [ofInt, ofRatio, Nat.div_one]
  generalize n.natAbs * unit = a at shift same
  have significand := nearest_shift_le a
  have size : ((a.log2 - 52) <<< 52) + nearest a (1 <<< (a.log2 - 52)) < 2047 * 2 ^ 52 := by
    rw [Nat.shiftLeft_eq]
    omega
  have exponent : (ofInt n).exponent < maxExponent := by
    rw [same, exponent_ofSize _ size]
    exact Nat.div_lt_of_lt_mul (by rwa [maxExponent, Nat.mul_comm])
  exact decide_eq_true (Nat.ne_of_lt exponent)

end Whiteboard.Binary64
