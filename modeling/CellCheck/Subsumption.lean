import CellCheck.Expr.Basic

/-!
# Subsumption

One cell subsumes another if it matches every value that the other matches.  The question is
answered for the forms of cells that stand for an interval or a single value: the empty cell,
literals and variables, comparisons and ranges.  For all others, and for values of different
kinds, the cells are incomparable and there is no answer.

A comparison is an interval without a bound on one side.  Intervals are compared end by end, and
an end without a bound is settled before any value is looked at.

When two values count as equal is a parameter.  It is asked only about two literals of the same
kind, or two variables.
-/

namespace CellCheck

/-- Whether two atoms of one kind count as equal. -/
abbrev ValueEquality : Type := Expr → Expr → Bool

/-- One end of an interval: no bound, or a bound that is part of the interval or not. -/
inductive Bound where
  | unbounded
  | bounded (value : Expr) (included : Bool)
deriving DecidableEq

structure Interval where
  lower : Bound
  upper : Bound
deriving DecidableEq

/-- The interval that a range or a comparison stands for. -/
def Interval.ofExpr? : Expr → Option Interval
  | .range lowerIncluded lower upper upperIncluded =>
    some ⟨.bounded lower lowerIncluded, .bounded upper upperIncluded⟩
  | .unary .lt operand => some ⟨.unbounded, .bounded operand false⟩
  | .unary .le operand => some ⟨.unbounded, .bounded operand true⟩
  | .unary .gt operand => some ⟨.bounded operand false, .unbounded⟩
  | .unary .ge operand => some ⟨.bounded operand true, .unbounded⟩
  | _ => none

/-- The order of two literals of one ordered kind, by which bounds are compared. -/
def Atom.compare? : Atom → Atom → Option Ordering
  | .integer x, .integer y => some (compare x.toInt y.toInt)
  | .double x, .double y => x.compare? y
  | .date x, .date y => some (compare x.rank y.rank)
  | _, _ => none

/-- The order of two bounds.  What the value equality takes as equal is equal whatever its order
is. -/
def compareBounds (equal : ValueEquality) (x y : Expr) : Option Ordering :=
  match x, y with
  | .atom a, .atom b => (a.compare? b).map fun order => if equal x y then .eq else order
  | _, _ => none

/-- Whether the outer end reaches at least as far as the inner one.  `outward` is the order in which
a value lies to one that is farther inside. -/
def Bound.covers (equal : ValueEquality) (outward : Ordering) : Bound → Bound → Option Bool
  | .unbounded, _ => some true
  | .bounded _ _, .unbounded => some false
  | .bounded outer outerIncluded, .bounded inner innerIncluded =>
    (compareBounds equal outer inner).map fun order =>
      if order = .eq then outerIncluded || !innerIncluded else order = outward

/-- Whether one interval contains another. -/
def Interval.contains (equal : ValueEquality) (outer inner : Interval) : Option Bool := do
  let lower ← outer.lower.covers equal .lt inner.lower
  let upper ← outer.upper.covers equal .gt inner.upper
  return lower && upper

namespace Expr

/-- Whether the outer expression matches every value that the inner one matches, or nothing if the
two cannot be compared. -/
def subsumesBy (equal : ValueEquality) (outer inner : Expr) : Option Bool :=
  match outer, inner with
  | empty, _ => some true
  | _, empty => some false
  | atom a, atom b => if a.sameKind b then some (equal outer inner) else none
  | _, _ => do
    let outerInterval ← Interval.ofExpr? outer
    let innerInterval ← Interval.ofExpr? inner
    outerInterval.contains equal innerInterval

/-- Subsumption with literals equal only to themselves. -/
def subsumes (outer inner : Expr) : Option Bool := subsumesBy same outer inner

end Expr
end CellCheck
