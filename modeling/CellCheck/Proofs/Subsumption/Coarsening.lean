import CellCheck.Proofs.Subsumption.Unanswered

/-!
# Coarser equalities of values

A larger tolerance takes more values as equal, but this does not mean that a cell subsumes more
cells with it.  Bounds that count as equal are no longer asked which of them lies farther out, so
that an end which is not part of the outer interval stops covering one that is part of the inner
interval once the two are within the tolerance: `<5.05` covers `<=5.0` exactly, but not with a
tolerance of 0.1.

This is the only way in which an answer is lost.  If no such ends face each other, what one cell
subsumes it subsumes under every coarser equality as well.
-/

namespace CellCheck

/-- Whether everything that one equality takes as equal is equal for the other one, too. -/
def ValueEquality.Finer (equal coarser : ValueEquality) : Prop :=
  ∀ x y, equal x y = true → coarser x y = true

/-! ## Ends of intervals -/

/-- Whether the bound at an end is part of the interval, if there is one. -/
def Bound.included? : Bound → Option Bool
  | unbounded => none
  | bounded _ included => some included

namespace ValueEquality.Finer

variable {equal coarser : ValueEquality}

/-- Bounds keep their order under a coarser equality, unless they become equal. -/
theorem compareBounds_eq_or (finer : equal.Finer coarser) {x y : Expr} {order : Ordering}
    (compared : compareBounds equal x y = some order) :
    compareBounds coarser x y = some order ∨ compareBounds coarser x y = some .eq := by
  unfold compareBounds at *
  split at compared
  · next a b =>
    rcases Option.map_eq_some_iff.mp compared with ⟨natural, ordered, result⟩
    rw [ordered, Option.map_some]
    cases equated : coarser (.atom a) (.atom b) with
    | true => exact .inr rfl
    | false =>
      have different : ¬ equal (.atom a) (.atom b) = true := by
        intro same
        rw [finer _ _ same] at equated
        cases equated
      rw [if_neg different] at result
      exact .inl (congrArg some result)
  · cases compared

/-- Under a coarser equality an end still covers another, unless the other one is closed and it is
not itself. -/
theorem covers (finer : equal.Finer coarser) {outward : Ordering} {outer inner : Bound}
    (notOpen : outer.included? = some false → inner.included? ≠ some true)
    (covers : outer.covers equal outward inner = some true) :
    outer.covers coarser outward inner = some true := by
  cases outer with
  | unbounded => rfl
  | bounded x outerIncluded =>
    cases inner with
    | unbounded => cases covers
    | bounded y innerIncluded =>
      -- If the bounds become equal, it is left to compare whether they are part of their intervals.
      have level : (outerIncluded || !innerIncluded) = true := by
        cases outerIncluded with
        | true => rfl
        | false => simpa [Bound.included?] using notOpen
      rcases Option.map_eq_some_iff.mp covers with ⟨order, compared, reaches⟩
      rcases finer.compareBounds_eq_or compared with same | equated
      · rw [Bound.covers, same, Option.map_some, reaches]
      · rw [Bound.covers, equated, Option.map_some, if_pos rfl, level]

theorem contains (finer : equal.Finer coarser) {outer inner : Interval}
    (notOpen : ∀ side, (outer.endAt side).included? = some false →
      (inner.endAt side).included? ≠ some true)
    (contains : outer.contains equal inner = some true) :
    outer.contains coarser inner = some true := by
  rcases Interval.contains_eq_some_iff.mp contains with
    ⟨lower, upper, lowerCovers, upperCovers, both⟩
  rw [Bool.and_eq_true] at both
  rw [both.1] at lowerCovers
  rw [both.2] at upperCovers
  apply Interval.contains_eq_some_iff.mpr
  exact ⟨true, true, finer.covers (notOpen .lower) lowerCovers,
    finer.covers (notOpen .upper) upperCovers, rfl⟩

end ValueEquality.Finer

/-! ## Expressions -/

namespace Expr

/-- Whether a range or comparison includes its bound on one side, if it has one there. -/
def includedAt? (side : Interval.Side) (e : Expr) : Option Bool :=
  match side, e with
  | .lower, range included _ _ _ => some included
  | .lower, unary .gt _ => some false
  | .lower, unary .ge _ => some true
  | .upper, range _ _ _ included => some included
  | .upper, unary .lt _ => some false
  | .upper, unary .le _ => some true
  | _, _ => none

/-- Whether both have a bound on the same side, which only the inner one includes. -/
def OpenAgainstClosed (outer inner : Expr) : Prop :=
  ∃ side, outer.includedAt? side = some false ∧ inner.includedAt? side = some true

theorem includedAt?_of_ofExpr? {e : Expr} {interval : Interval}
    (isInterval : Interval.ofExpr? e = some interval) (side : Interval.Side) :
    e.includedAt? side = (interval.endAt side).included? := by
  unfold Interval.ofExpr? at isInterval
  split at isInterval <;> cases isInterval <;> cases side <;> rfl

theorem within_finer {tolerance larger : Double} (atMost : tolerance.atMost larger = true) :
    ValueEquality.Finer (within tolerance) (within larger) := by
  intro x y close
  unfold within at *
  split at close
  · exact Double.atMost_trans close atMost
  · exact close

/-- **A coarser equality loses an answer only at an open end against a closed one.**  A larger
tolerance is a coarser equality. -/
theorem subsumesBy_coarsened :
    (∀ equal coarser : ValueEquality, equal.Finer coarser → ∀ outer inner,
      subsumesBy equal outer inner = some true → ¬ outer.OpenAgainstClosed inner →
      subsumesBy coarser outer inner = some true) ∧
    ∀ tolerance larger : Double, tolerance.atMost larger = true →
      ValueEquality.Finer (within tolerance) (within larger) := by
  refine ⟨?_, fun tolerance larger => within_finer⟩
  intro equal coarser finer outer inner subsumed notOpen
  generalize isTrue : true = answer at subsumed
  cases subsumesBy_eq_some_iff.mp subsumed with
  | emptyOuter => rfl
  | emptyInner => cases isTrue
  | atoms sameKind =>
    have equated := finer _ _ isTrue.symm
    apply subsumesBy_eq_some_iff.mpr
    rw [← isTrue, ← equated]
    exact .atoms sameKind
  | @intervals _ _ outerInterval innerInterval _ isOuter isInner contains =>
    subst isTrue
    rw [subsumesBy_intervals isOuter isInner]
    apply finer.contains _ contains
    intro side isOpen isClosed
    rw [← includedAt?_of_ofExpr? isOuter] at isOpen
    rw [← includedAt?_of_ofExpr? isInner] at isClosed
    exact notOpen ⟨side, isOpen, isClosed⟩

/-- The lower bounds of `>4.0` and `(4.05..9.0]` are equal with a tolerance of 0.1, but both are
open, so that the first subsumes the second with it as well as without. -/
theorem subsumesBy_coarsened_open :
    let tenth : Double := .ofDecimal false ⟨1, -1⟩
    let outer : Expr := .unary .gt (.atom (.double (.ofDecimal false ⟨4, 0⟩)))
    let inner : Expr := .range false (.atom (.double (.ofDecimal false ⟨405, -2⟩)))
      (.atom (.double (.ofDecimal false ⟨9, 0⟩))) true
    (Double.zero.atMost tenth = true ∧ ValueEquality.Finer (within .zero) (within tenth)) ∧
      (subsumesBy (within .zero) outer inner = some true ∧ ¬ outer.OpenAgainstClosed inner) ∧
      subsumesBy (within tenth) outer inner = some true := by
  intro tenth outer inner
  rcases subsumesBy_coarsened with ⟨keeps, coarsens⟩
  have atMost : Double.zero.atMost tenth = true := by decide +kernel
  have subsumed : subsumesBy (within .zero) outer inner = some true := by decide +kernel
  have notOpen : ¬ outer.OpenAgainstClosed inner := by
    intro openAgainstClosed
    rcases openAgainstClosed with ⟨side, isOpen, isClosed⟩
    cases side with
    | lower => cases isClosed
    | upper => cases isOpen
  have finer := coarsens .zero tenth atMost
  exact ⟨⟨atMost, finer⟩, ⟨subsumed, notOpen⟩, keeps _ _ finer outer inner subsumed notOpen⟩

/-- An open end against a closed one does lose the answer once the tolerance reaches it. -/
example :
    let outer : Expr := .unary .lt (.atom (.double (.ofDecimal false ⟨505, -2⟩)))
    let inner : Expr := .unary .le (.atom (.double (.ofDecimal false ⟨5, 0⟩)))
    subsumesBy (within .zero) outer inner = some true ∧
      subsumesBy (within (.ofDecimal false ⟨1, -1⟩)) outer inner = some false := by
  decide +kernel

end Expr
end CellCheck
