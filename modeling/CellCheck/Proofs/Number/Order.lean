import CellCheck.Number.Double
import Mathlib.Order.Monotone.Basic

/-!
# The order of doubles and their values

Doubles are ordered by their sign and magnitude, taken as one whole number.  This is the order of
their values: a larger magnitude has more units, across the borders between exponents as well, and
the two zeros have the same place and the same units.
-/

namespace CellCheck
namespace Double

theorem compare?_eq_some_iff {x y : Double} {order : Ordering} :
    x.compare? y = some order ↔
      x.isNaN = false ∧ y.isNaN = false ∧ compare x.rank y.rank = order := by
  unfold compare?
  cases x.isNaN <;> cases y.isNaN <;> simp

theorem same_iff {x y : Double} :
    x.same y = true ↔ x.isNaN = false ∧ y.isNaN = false ∧ x.rank = y.rank := by
  rw [same, beq_iff_eq, compare?_eq_some_iff, Int.compare_eq_eq]

theorem atMost_iff {x y : Double} :
    x.atMost y = true ↔ x.isNaN = false ∧ y.isNaN = false ∧ x.rank ≤ y.rank := by
  rw [atMost, compare?]
  cases x.isNaN with
  | true => simp
  | false =>
    cases y.isNaN with
    | true => simp
    | false =>
      cases order : compare x.rank y.rank with
      | lt => simpa [order] using Int.le_of_lt (Int.compare_eq_lt.mp order)
      | eq => simpa [order] using Int.le_of_eq (Int.compare_eq_eq.mp order)
      | gt => simpa [order] using Int.compare_eq_gt.mp order

theorem atMost_trans {x y z : Double} (first : x.atMost y = true) (second : y.atMost z = true) :
    x.atMost z = true := by
  rw [atMost_iff] at first second ⊢
  exact ⟨first.1, second.2.1, Int.le_trans first.2.2 second.2.2⟩

theorem unitsOf_lt_succ (magnitude : Nat) : unitsOf magnitude < unitsOf (magnitude + 1) := by
  unfold unitsOf
  by_cases small : magnitude + 1 < 2 ^ 52
  · rw [if_pos (Nat.lt_of_succ_lt small), if_pos small]
    exact Nat.lt_succ_self magnitude
  · rw [if_neg small]
    by_cases subnormal : magnitude < 2 ^ 52
    · -- The least normal magnitude follows the largest subnormal one.
      have border : magnitude + 1 = 2 ^ 52 := by omega
      rw [if_pos subnormal, border]
      omega
    · rw [if_neg subnormal]
      have fraction := Nat.mod_lt magnitude (show 0 < 2 ^ 52 by decide)
      have scale := Nat.two_pow_pos (magnitude / 2 ^ 52 - 1)
      by_cases sameExponent : magnitude % 2 ^ 52 + 1 < 2 ^ 52
      · have quotient : (magnitude + 1) / 2 ^ 52 = magnitude / 2 ^ 52 := by omega
        have remainder : (magnitude + 1) % 2 ^ 52 = magnitude % 2 ^ 52 + 1 := by omega
        rw [quotient, remainder]
        apply Nat.mul_lt_mul_of_pos_right _ scale
        omega
      · have quotient : (magnitude + 1) / 2 ^ 52 - 1 = magnitude / 2 ^ 52 - 1 + 1 := by omega
        have remainder : (magnitude + 1) % 2 ^ 52 = 0 := by omega
        have double : 2 ^ (magnitude / 2 ^ 52 - 1 + 1) = 2 * 2 ^ (magnitude / 2 ^ 52 - 1) :=
          Nat.pow_succ'
        rw [quotient, remainder, Nat.add_zero, double, ← Nat.mul_assoc]
        apply Nat.mul_lt_mul_of_pos_right _ scale
        omega

theorem unitsOf_strictMono : StrictMono unitsOf := strictMono_nat_of_lt_succ unitsOf_lt_succ

/-- Doubles are ordered as their values are. -/
theorem units_lt_units_iff (x y : Double) : x.units < y.units ↔ x.rank < y.rank := by
  have order := unitsOf_strictMono.lt_iff_lt (a := x.magnitude) (b := y.magnitude)
  have reversed := unitsOf_strictMono.lt_iff_lt (a := y.magnitude) (b := x.magnitude)
  have xPositive := unitsOf_strictMono.lt_iff_lt (a := 0) (b := x.magnitude)
  have yPositive := unitsOf_strictMono.lt_iff_lt (a := 0) (b := y.magnitude)
  have zero : unitsOf 0 = 0 := rfl
  unfold units rank
  cases x.negative <;> cases y.negative <;>
    simp only [Bool.false_eq_true, if_false, if_true] <;> omega

theorem units_eq_units_iff (x y : Double) : x.units = y.units ↔ x.rank = y.rank := by
  have below := units_lt_units_iff x y
  have above := units_lt_units_iff y x
  omega

end Double
end CellCheck
