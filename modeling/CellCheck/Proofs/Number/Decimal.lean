import CellCheck.Proofs.Number.Rounding

/-!
# Decimals and their positional form

The positional form of a decimal has digits on both sides of one point.  Read again it may be
another decimal, with more digits, but never another number, and neither is the decimal that it is
brought to first, which has the fewest places.
-/

namespace CellCheck
namespace Decimal

def quotient (d : Decimal) : Nat × Nat :=
  match d.exponent with
  | .ofNat zeros => (d.digits * 10 ^ zeros, 1)
  | .negSucc n => (d.digits, 10 ^ (n + 1))

/-- Decimals that are the same number. -/
def SameNumber (a b : Decimal) : Prop :=
  a.quotient.1 * b.quotient.2 = b.quotient.1 * a.quotient.2

theorem quotient_pos (d : Decimal) : 0 < d.quotient.2 := by
  unfold quotient
  split
  · exact Nat.one_pos
  · exact Nat.pow_pos (by decide)

theorem SameNumber.trans {a b c : Decimal} (first : SameNumber a b) (second : SameNumber b c) :
    SameNumber a c := by
  unfold SameNumber at *
  refine Nat.eq_of_mul_eq_mul_right b.quotient_pos ?_
  calc a.quotient.1 * c.quotient.2 * b.quotient.2
      = a.quotient.1 * b.quotient.2 * c.quotient.2 := Nat.mul_right_comm _ _ _
    _ = b.quotient.1 * c.quotient.2 * a.quotient.2 := by rw [first, Nat.mul_right_comm]
    _ = c.quotient.1 * a.quotient.2 * b.quotient.2 := by rw [second, Nat.mul_right_comm]

theorem unitsOfDecimal_eq (d : Decimal) :
    Double.unitsOfDecimal d = (d.quotient.1 * 2 ^ 1074, d.quotient.2) := by
  rcases d with ⟨digits, zeros | n⟩ <;> simp only [Double.unitsOfDecimal, quotient]

theorem SameNumber.ofDecimal_eq {a b : Decimal} (same : SameNumber a b) (negative : Bool) :
    Double.ofDecimal negative a = Double.ofDecimal negative b := by
  have nearest : Double.nearestMagnitude (a.quotient.1 * 2 ^ 1074) a.quotient.2 =
      Double.nearestMagnitude (b.quotient.1 * 2 ^ 1074) b.quotient.2 := by
    refine Double.nearestMagnitude_congr a.quotient_pos b.quotient_pos ?_
    rw [Nat.mul_right_comm, same, Nat.mul_right_comm]
  simp only [Double.ofDecimal, Double.nearest, unitsOfDecimal_eq, nearest]

/-! ## Fewest places -/

/-- Leaving out zeros at the end does not change the number. -/
theorem quotient_ofPlaces (digits places : Nat) :
    (ofPlaces digits places).quotient.1 * 10 ^ places =
      digits * (ofPlaces digits places).quotient.2 := by
  induction places generalizing digits with
  | zero => simp [ofPlaces, quotient]
  | succ places ih =>
    unfold ofPlaces
    split
    · next zeroLast =>
      have whole : digits / 10 * 10 = digits := Nat.div_mul_cancel (Nat.dvd_of_mod_eq_zero zeroLast)
      rw [Nat.pow_succ, ← Nat.mul_assoc, ih, Nat.mul_right_comm, whole]
    · rfl

theorem sameNumber_normalize (d : Decimal) : SameNumber d.normalize d := by
  unfold normalize
  split
  · rfl
  · next places exponent =>
    have places := quotient_ofPlaces d.digits (places + 1)
    simp only [SameNumber, quotient, exponent] at places ⊢
    exact places

/-! ## The positional form -/

theorem ofChars_point {whole : List Char} (noPoint : '.' ∉ whole) (fraction : List Char) :
    ofChars (whole ++ '.' :: fraction) =
      ⟨Nat.ofDigitChars 10 (whole ++ fraction) 0, -(fraction.length : Int)⟩ := by
  have before : ∀ c ∈ whole, decide (c ≠ '.') = true := by
    intro c member
    rw [decide_eq_true_eq]
    rintro rfl
    exact noPoint member
  have taken : (whole ++ '.' :: fraction).takeWhile (· ≠ '.') = whole := by
    rw [List.takeWhile_append_of_pos before]
    simp
  have dropped : (whole ++ '.' :: fraction).dropWhile (· ≠ '.') = '.' :: fraction := by
    rw [List.dropWhile_append_of_pos before]
    simp
  simp only [ofChars, taken, dropped, List.drop_succ_cons, List.drop_zero]

/-- A text of digits around a point that reads as a given number. -/
structure Writes (cs : List Char) (d : Decimal) : Prop where
  shape : ∃ whole fraction, cs = whole ++ '.' :: fraction ∧ whole ≠ [] ∧ fraction ≠ [] ∧
    (∀ c ∈ whole, c.isDigit = true) ∧ ∀ c ∈ fraction, c.isDigit = true
  reads : SameNumber (ofChars cs) d

theorem isDigit_of_mem_toDigits {n : Nat} : ∀ c ∈ Nat.toDigits 10 n, c.isDigit = true :=
  fun _ member => Nat.isDigit_of_mem_toDigits (by decide) (by decide) member

theorem isDigit_of_mem_zeros {n : Nat} : ∀ c ∈ List.replicate n '0', c.isDigit = true := by
  intro c member
  rw [List.eq_of_mem_replicate member]
  rfl

theorem point_not_mem {cs : List Char} (isDigits : ∀ c ∈ cs, c.isDigit = true) : '.' ∉ cs := by
  intro member
  exact absurd (isDigits _ member) (by decide)

/-- A decimal without places, written with the place `0`. -/
theorem writes_whole (digits zeros : Nat) :
    Writes (Nat.toDigits 10 digits ++ List.replicate zeros '0' ++ ['.', '0'])
      ⟨digits, .ofNat zeros⟩ := by
  have isDigits : ∀ c ∈ Nat.toDigits 10 digits ++ List.replicate zeros '0', c.isDigit = true := by
    intro c member
    rcases List.mem_append.mp member with member | member
    · exact isDigit_of_mem_toDigits c member
    · exact isDigit_of_mem_zeros c member
  refine ⟨⟨_, ['0'], rfl, by simp [Nat.toDigits_ne_nil], by simp, isDigits, by simp⟩, ?_⟩
  rw [ofChars_point (point_not_mem isDigits)]
  have value : Nat.ofDigitChars 10
      (Nat.toDigits 10 digits ++ List.replicate zeros '0' ++ ['0']) 0 =
      digits * 10 ^ zeros * 10 := by
    rw [Nat.ofDigitChars_append, Nat.ofDigitChars_append, Nat.ofDigitChars_ten_toDigits,
      Nat.ofDigitChars_replicate_zero, Nat.ofDigitChars_cons, Nat.ofDigitChars_nil]
    simp [Nat.mul_comm]
  rw [value]
  exact Nat.mul_one _

/-- Digits with zeros in front and a point before the last `n + 1` of them. -/
theorem writes_places (written : List Char) (n : Nat)
    (isDigits : ∀ c ∈ written, c.isDigit = true)
    (enough : n + 2 ≤ written.length) :
    Writes (written.take (written.length - (n + 1)) ++
        '.' :: written.drop (written.length - (n + 1)))
      ⟨Nat.ofDigitChars 10 written 0, .negSucc n⟩ := by
  have wholeDigits : ∀ c ∈ written.take (written.length - (n + 1)), c.isDigit = true :=
    fun c member => isDigits c (List.mem_of_mem_take member)
  have places : (written.drop (written.length - (n + 1))).length = n + 1 := by
    rw [List.length_drop]
    omega
  refine ⟨⟨_, _, rfl, ?_, ?_, wholeDigits, fun c member => isDigits c (List.mem_of_mem_drop member)⟩,
    ?_⟩
  · rw [← List.length_pos_iff, List.length_take]
    omega
  · rw [← List.length_pos_iff, places]
    exact Nat.succ_pos n
  · rw [ofChars_point (point_not_mem wholeDigits), List.take_append_drop, places]
    rfl

/-- The positional form of a decimal has digits around a point and reads as the same number. -/
theorem writes_positional (d : Decimal) : Writes d.positional d := by
  rcases d with ⟨digits, zeros | n⟩
  · exact writes_whole digits zeros
  · have value : Nat.ofDigitChars 10
        (List.replicate (n + 2 - (Nat.toDigits 10 digits).length) '0' ++ Nat.toDigits 10 digits) 0 =
        digits := by
      rw [Nat.ofDigitChars_append, Nat.ofDigitChars_replicate_zero, Nat.mul_zero,
        Nat.ofDigitChars_ten_toDigits]
    have writes := writes_places
      (List.replicate (n + 2 - (Nat.toDigits 10 digits).length) '0' ++ Nat.toDigits 10 digits) n
      ?_ ?_
    · rw [value] at writes
      exact writes
    · intro c member
      rcases List.mem_append.mp member with member | member
      · exact isDigit_of_mem_zeros c member
      · exact isDigit_of_mem_toDigits c member
    · rw [List.length_append, List.length_replicate]
      omega

end Decimal
end CellCheck
