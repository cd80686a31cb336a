import CellCheck.Proofs.Number.Order
import CellCheck.Proofs.Number.Rounding

/-!
# The distance of doubles

The distance of two doubles is rounded, but never to zero unless there is no distance at all.  So
two finite doubles are equal exactly if their distance is at most zero.  This fails for the
infinities: an infinity is equal to itself, but has no distance to itself.
-/

namespace CellCheck
namespace Double

/-- A positive number of units is not rounded to zero. -/
theorem nearestMagnitude_one_eq_zero_iff {units : Nat} :
    nearestMagnitude units 1 = 0 ↔ units = 0 := by
  constructor
  · intro rounded
    simp only [nearestMagnitude, Nat.div_one, Nat.one_mul] at rounded
    generalize Nat.log2 units - 52 = shift at rounded
    have sum : shift * 2 ^ 52 + roundQuotient units (2 ^ shift) = 0 := by
      have positive : infinityMagnitude ≠ 0 := by decide
      omega
    obtain rfl : shift = 0 := by omega
    have exact := roundQuotient_mul_self units Nat.one_pos
    rw [Nat.mul_one] at exact
    rw [Nat.pow_zero, exact] at sum
    omega
  · rintro rfl
    rfl

theorem atMost_zero_iff {x : Double} :
    x.atMost zero = true ↔ x.isNaN = false ∧ x.rank ≤ 0 := by
  have zeroIsNumber : zero.isNaN = false := rfl
  have zeroRank : zero.rank = 0 := rfl
  rw [atMost_iff, zeroIsNumber, zeroRank]
  simp

theorem natAbs_rank (x : Double) : x.rank.natAbs = x.magnitude := by
  unfold rank
  split
  · rw [Int.natAbs_neg, Int.natAbs_natCast]
  · rw [Int.natAbs_natCast]

/-- The distance of two finite doubles is zero only if they are equal. -/
theorem rank_nearest_le_zero_iff {x y : Double} :
    (nearest false (x.units - y.units).natAbs 1).rank ≤ 0 ↔ x.rank = y.rank := by
  rw [← units_eq_units_iff, nearest, rank, if_neg Bool.false_ne_true, Int.natCast_nonpos_iff,
    nearestMagnitude_one_eq_zero_iff, Int.natAbs_eq_zero, Int.sub_eq_zero]

theorem nan_atMost (x : Double) : nan.atMost x = false := rfl

theorem infinity_atMost_zero : (infinity false).atMost zero = false := by decide

theorem isInfinite_eq_of_rank_eq {x y : Double} (same : x.rank = y.rank) :
    x.isInfinite = y.isInfinite := by
  rw [isInfinite, isInfinite, ← natAbs_rank, same, natAbs_rank]

/-- Without a tolerance two doubles are equal if they are equal as numbers and finite.  An infinity
has no distance to itself. -/
theorem within_zero_iff {x y : Double} :
    within zero x y = true ↔ x.same y = true ∧ x.isInfinite = false := by
  rw [within, distance, same_iff]
  cases xIsNaN : x.isNaN with
  | true => simp [nan_atMost]
  | false =>
    cases yIsNaN : y.isNaN with
    | true => simp [nan_atMost]
    | false =>
      cases xIsInfinite : x.isInfinite with
      | true =>
        cases y.isInfinite with
        | true => cases x.negative == y.negative <;> simp [nan_atMost, infinity_atMost_zero]
        | false => simp [infinity_atMost_zero]
      | false =>
        cases yIsInfinite : y.isInfinite with
        | true =>
          have different : x.rank ≠ y.rank := by
            intro same
            rw [isInfinite_eq_of_rank_eq same, yIsInfinite] at xIsInfinite
            cases xIsInfinite
          simp [infinity_atMost_zero, different]
        | false =>
          have isNumber : (nearest false (x.units - y.units).natAbs 1).isNaN = false :=
            decide_eq_false (Nat.not_lt.mpr (Nat.min_le_right _ _))
          simp [atMost_zero_iff, isNumber, rank_nearest_le_zero_iff]

end Double
end CellCheck
