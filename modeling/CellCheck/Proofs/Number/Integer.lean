import CellCheck.Number.Decimal

/-!
# Integers and their digits

Reading an integer is exact: the result, if there is one, has the value that the digits and the sign
spell, and there is a result whenever that value fits.  So an integer can be read back from the
digits of its size.
-/

namespace CellCheck
namespace Integer

/-- Signed digits denote an integer exactly if it has their value. -/
theorem ofDigits?_eq_some_iff {negative : Bool} {digits : List Char} {n : Int64} :
    ofDigits? negative digits = some n ↔
      n.toInt = (if negative then -1 else 1) * (Nat.ofDigitChars 10 digits 0 : Int) := by
  have signed : (if negative then -(Nat.ofDigitChars 10 digits 0 : Int)
      else Nat.ofDigitChars 10 digits 0) =
      (if negative then -1 else 1) * (Nat.ofDigitChars 10 digits 0 : Int) := by
    cases negative <;> simp
  simp only [ofDigits?, signed]
  generalize (if negative then (-1 : Int) else 1) * (Nat.ofDigitChars 10 digits 0 : Int) = value
  constructor
  · intro found
    split at found
    · next fits =>
      rw [Option.some.injEq] at found
      rw [← found, Int64.toInt_ofInt_of_le fits.1 fits.2]
    · cases found
  · intro exact
    have fits : -2 ^ 63 ≤ value ∧ value < 2 ^ 63 := exact ▸ ⟨n.le_toInt, n.toInt_lt⟩
    rw [if_pos fits, ← exact, Int64.ofInt_toInt]

/-- Whether there is an integer with a sign and a size.  There is one more below zero than above. -/
def Fits : Bool → Nat → Prop
  | true, size => size ≤ 2 ^ 63
  | false, size => size < 2 ^ 63

theorem fits_iff {negative : Bool} {size : Nat} :
    Fits negative size ↔ ∃ n : Int64, n.toInt = (if negative then -1 else 1) * (size : Int) := by
  have inRange : Fits negative size ↔
      -2 ^ 63 ≤ (if negative then -1 else 1) * (size : Int) ∧
        (if negative then -1 else 1) * (size : Int) < 2 ^ 63 := by
    cases negative with
    | true =>
      simp only [Fits, if_true]
      omega
    | false =>
      simp only [Fits, Bool.false_eq_true, if_false]
      omega
  rw [inRange]
  constructor
  · rintro ⟨atLeast, below⟩
    exact ⟨_, Int64.toInt_ofInt_of_le atLeast below⟩
  · rintro ⟨n, exact⟩
    rw [← exact]
    exact ⟨n.le_toInt, n.toInt_lt⟩

theorem ofDigits?_eq_none {negative : Bool} {digits : List Char}
    (tooLarge : ¬ Fits negative (Nat.ofDigitChars 10 digits 0)) :
    ofDigits? negative digits = none := by
  rw [Option.eq_none_iff_forall_ne_some]
  intro n found
  exact tooLarge (fits_iff.mpr ⟨n, ofDigits?_eq_some_iff.mp found⟩)

theorem ofDigits?_toDigits (n : Int64) :
    ofDigits? (decide (n.toInt < 0)) (Nat.toDigits 10 n.toInt.natAbs) = some n := by
  rw [ofDigits?_eq_some_iff, Nat.ofDigitChars_ten_toDigits]
  by_cases isNegative : n.toInt < 0
  · simp only [isNegative, decide_true, if_true]
    omega
  · simp only [isNegative, decide_false, Bool.false_eq_true, if_false]
    omega

end Integer
end CellCheck
