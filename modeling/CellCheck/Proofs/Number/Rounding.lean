import CellCheck.Number.Shortest

/-!
# Rounding to doubles

Rounding takes a quotient of units.  It depends on the value of the quotient only, and it gives back
every finite magnitude from the magnitude's own units.
-/

namespace CellCheck
namespace Double

/-- A quotient is rounded in the same way after both of its parts have been multiplied. -/
theorem roundQuotient_mul_right (numerator denominator : Nat) {factor : Nat} (positive : 0 < factor) :
    roundQuotient (numerator * factor) (denominator * factor) =
      roundQuotient numerator denominator := by
  simp only [roundQuotient, Nat.mul_div_mul_right _ _ positive, Nat.mul_mod_mul_right]
  have below : 2 * (numerator % denominator * factor) < denominator * factor ↔
      2 * (numerator % denominator) < denominator := by
    rw [← Nat.mul_assoc, Nat.mul_lt_mul_right positive]
  have above : denominator * factor < 2 * (numerator % denominator * factor) ↔
      denominator < 2 * (numerator % denominator) := by
    rw [← Nat.mul_assoc, Nat.mul_lt_mul_right positive]
  simp only [below, above]

theorem nearestMagnitude_mul_right (numerator denominator : Nat) {factor : Nat}
    (positive : 0 < factor) :
    nearestMagnitude (numerator * factor) (denominator * factor) =
      nearestMagnitude numerator denominator := by
  simp only [nearestMagnitude, Nat.mul_div_mul_right _ _ positive]
  rw [Nat.mul_right_comm, roundQuotient_mul_right _ _ positive]

theorem nearestMagnitude_congr {n d n' d' : Nat} (positive : 0 < d) (positive' : 0 < d')
    (same : n * d' = n' * d) : nearestMagnitude n d = nearestMagnitude n' d' := by
  rw [← nearestMagnitude_mul_right n d positive', ← nearestMagnitude_mul_right n' d' positive, same,
    Nat.mul_comm d d']

theorem roundQuotient_mul_self (quotient : Nat) {denominator : Nat} (positive : 0 < denominator) :
    roundQuotient (quotient * denominator) denominator = quotient := by
  simp [roundQuotient, Nat.mul_div_cancel _ positive, positive]

theorem log2_mul_two_pow (n : Nat) {k : Nat} (positive : n ≠ 0) :
    Nat.log2 (n * 2 ^ k) = Nat.log2 n + k := by
  have nonzero : n * 2 ^ k ≠ 0 := Nat.mul_ne_zero positive (Nat.ne_of_gt (Nat.two_pow_pos k))
  have bounds := (Nat.log2_eq_iff positive).mp rfl
  rw [Nat.log2_eq_iff nonzero, Nat.pow_add, Nat.add_right_comm, Nat.pow_add]
  exact ⟨Nat.mul_le_mul_right _ bounds.1, Nat.mul_lt_mul_of_pos_right bounds.2 (Nat.two_pow_pos k)⟩

/-- The units of a magnitude are nearest to it. -/
theorem nearestMagnitude_unitsOf {magnitude : Nat} (isFinite : magnitude < infinityMagnitude) :
    nearestMagnitude (unitsOf magnitude) 1 = magnitude := by
  unfold nearestMagnitude unitsOf
  split
  · next small =>
    have noShift : Nat.log2 (magnitude / 1) - 52 = 0 := by
      rw [Nat.div_one]
      by_cases zero : magnitude = 0
      · subst zero
        rfl
      · have := (Nat.log2_lt zero).mpr small
        omega
    have exact : roundQuotient magnitude 1 = magnitude := by
      simpa using roundQuotient_mul_self magnitude Nat.one_pos
    simp only [noShift, Nat.pow_zero, Nat.mul_one, Nat.zero_mul, Nat.zero_add, exact]
    exact Nat.min_eq_left (Nat.le_of_lt isFinite)
  · next large =>
    -- The exponent field is at least one here, so the units are its power of two times the
    -- fraction field with the hidden bit.
    have positive : 1 ≤ magnitude / 2 ^ 52 := by
      rw [Nat.le_div_iff_mul_le (by decide)]
      omega
    have parts : 2 ^ 52 * (magnitude / 2 ^ 52) + magnitude % 2 ^ 52 = magnitude :=
      Nat.div_add_mod magnitude (2 ^ 52)
    have fraction_lt : magnitude % 2 ^ 52 < 2 ^ 52 := Nat.mod_lt _ (by decide)
    have length : Nat.log2 (2 ^ 52 + magnitude % 2 ^ 52) = 52 := by
      rw [Nat.log2_eq_iff (by omega)]
      omega
    have shift : Nat.log2 ((2 ^ 52 + magnitude % 2 ^ 52) * 2 ^ (magnitude / 2 ^ 52 - 1) / 1) - 52 =
        magnitude / 2 ^ 52 - 1 := by
      rw [Nat.div_one, log2_mul_two_pow _ (by omega), length]
      omega
    have exact := roundQuotient_mul_self (2 ^ 52 + magnitude % 2 ^ 52)
      (Nat.two_pow_pos (magnitude / 2 ^ 52 - 1))
    simp only [shift, Nat.one_mul, exact]
    omega

end Double
end CellCheck
