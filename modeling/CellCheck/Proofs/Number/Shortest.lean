import CellCheck.Proofs.Number.Decimal

/-!
# Doubles and their written form

A finite double is written with digits around a point, and reading these digits gives the double
back.  Which digits they are does not matter for this: every decimal that the search returns has
been checked, and the exact expansion at the end of it needs no check.  That the search finds the
shortest digits is not shown.
-/

namespace CellCheck
namespace Double

theorem reads_of_chosen {reads : Decimal → Bool} {lower upper d : Decimal} {lowerIsNearer : Bool}
    (found : chosen reads lower upper lowerIsNearer = some d) : reads d = true := by
  unfold chosen at found
  split at found
  · next readsLower readsUpper =>
    cases found
    split
    · exact readsLower
    · exact readsUpper
  · next readsLower _ =>
    cases found
    exact readsLower
  · next _ readsUpper =>
    cases found
    exact readsUpper
  · cases found

theorem readsBack_of_onGrid? {magnitude : Nat} {exponent : Int} {d : Decimal}
    (found : onGrid? magnitude exponent = some d) : readsBack magnitude d = true := by
  rw [onGrid?] at found
  exact reads_of_chosen found

/-- The exact expansion is a whole number of units over `10 ^ 1074`. -/
theorem quotient_exactDecimal (magnitude : Nat) :
    (exactDecimal magnitude).quotient = (unitsOf magnitude * 5 ^ 1074, 10 ^ 1074) := by
  have exponent : (-1074 : Int) = Int.negSucc 1073 := rfl
  simp only [exactDecimal, exponent, Decimal.quotient]

theorem nearestMagnitude_tenths (units places : Nat) :
    nearestMagnitude (units * 5 ^ places * 2 ^ places) (10 ^ places) = nearestMagnitude units 1 := by
  refine nearestMagnitude_congr (Nat.pow_pos (by decide)) Nat.one_pos ?_
  rw [Nat.mul_one, Nat.mul_assoc, ← Nat.mul_pow]

/-- The exact expansion of a finite magnitude reads back. -/
theorem readsBack_exactDecimal {magnitude : Nat} (isFinite : magnitude < infinityMagnitude) :
    readsBack magnitude (exactDecimal magnitude) = true := by
  simp only [readsBack, Decimal.unitsOfDecimal_eq, quotient_exactDecimal]
  rw [nearestMagnitude_tenths, nearestMagnitude_unitsOf isFinite, beq_self_eq_true]

theorem readsBack_zero : readsBack 0 ⟨0, 0⟩ = true := by
  have quotient : (⟨0, 0⟩ : Decimal).quotient = (unitsOf 0, 1) := rfl
  have units : unitsOf 0 = 0 := rfl
  have nearest := nearestMagnitude_unitsOf (show 0 < infinityMagnitude by decide)
  simp only [readsBack, Decimal.unitsOfDecimal_eq, quotient, units, Nat.zero_mul] at nearest ⊢
  rw [nearest, beq_self_eq_true]

/-- A search for a decimal returns one that has passed the check, or the one it falls back to. -/
theorem reads_of_search {α : Type} {reads : Decimal → Bool} {search : α → Option Decimal}
    {fallback : Decimal} (steps : List α)
    (readsFound : ∀ {step d}, search step = some d → reads d = true)
    (readsFallback : reads fallback = true) :
    reads ((steps.findSome? search).getD fallback) = true := by
  cases found : steps.findSome? search with
  | none => exact readsFallback
  | some d =>
    rcases List.exists_of_findSome?_eq_some found with ⟨step, _, foundAt⟩
    exact readsFound foundAt

theorem readsBack_shortest {magnitude : Nat} (isFinite : magnitude < infinityMagnitude) :
    readsBack magnitude (shortest magnitude) = true := by
  rw [shortest]
  split
  · next zero => rw [zero, readsBack_zero]
  · exact reads_of_search _ readsBack_of_onGrid? (readsBack_exactDecimal isFinite)

/-- The written digits of a finite double denote the double. -/
theorem ofDecimal_ofChars_positional {x : Double} (isFinite : x.isFinite = true) :
    ofDecimal x.negative (Decimal.ofChars (shortest x.magnitude).normalize.positional) = x := by
  have same := (Decimal.writes_positional (shortest x.magnitude).normalize).reads.trans
    (shortest x.magnitude).sameNumber_normalize
  have back := readsBack_shortest (of_decide_eq_true isFinite)
  rw [same.ofDecimal_eq]
  rcases x with ⟨negative, magnitude, magnitude_lt⟩
  simp only [readsBack, beq_iff_eq] at back
  simp only [ofDecimal, nearest, back]

end Double
end CellCheck
