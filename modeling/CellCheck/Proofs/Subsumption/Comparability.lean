import CellCheck.Proofs.Subsumption.Unanswered

/-!
# Which trees can be compared

Whether subsumption has an answer is decided by the two trees alone, and it does not matter which of
them is the outer one.  The trees that can be compared are listed by `Expr.Answerable`: one of them
is empty, or both are atoms of one kind, or both are intervals none of whose facing bounds clash.

The equality of values only decides what the answer is.  It is asked about nothing but two literals
of one kind or two variables, so that equalities which agree there cannot be told apart.
-/

namespace CellCheck

theorem Atom.sameKind_comm (a b : Atom) : a.sameKind b = b.sameKind a := by
  cases a <;> cases b <;> rfl

theorem Atom.sameKind_of_compare? {a b : Atom} {order : Ordering}
    (ordered : a.compare? b = some order) : a.sameKind b = true := by
  unfold compare? at ordered
  split at ordered <;> first | rfl | cases ordered

namespace Expr

theorem OnOneLine.symm {x y : Expr} (onOneLine : x.OnOneLine y) : y.OnOneLine x := by
  rcases onOneLine with ⟨kind, p, q, first, second⟩
  exact ⟨kind, q, p, second, first⟩

/-- Bounds that face each other do so from either side. -/
theorem Clash.symm {outer inner : Expr} (clash : outer.Clash inner) : inner.Clash outer := by
  rcases clash with ⟨side, x, isOuter, y, isInner, notOnOneLine⟩
  exact ⟨side, y, isInner, x, isOuter, fun onOneLine => notOnOneLine onOneLine.symm⟩

/-- The pairs of trees that can be compared. -/
inductive Answerable : Expr → Expr → Prop
  | emptyOuter (inner : Expr) : Answerable .empty inner
  | emptyInner (outer : Expr) : Answerable outer .empty
  | atoms {a b : Atom} (sameKind : a.sameKind b = true) : Answerable (.atom a) (.atom b)
  | intervals {outer inner : Expr} (outerIs : outer.IsInterval) (innerIs : inner.IsInterval)
      (noClash : ¬ outer.Clash inner) : Answerable outer inner

theorem Answerable.symm {outer inner : Expr} (answerable : outer.Answerable inner) :
    inner.Answerable outer := by
  cases answerable with
  | emptyOuter => exact .emptyInner inner
  | emptyInner => exact .emptyOuter outer
  | atoms sameKind =>
    rw [Atom.sameKind_comm] at sameKind
    exact .atoms sameKind
  | intervals outerIs innerIs noClash =>
    exact .intervals innerIs outerIs fun clash => noClash clash.symm

variable {equal : ValueEquality} {outer inner : Expr}

/-- Intervals that do not clash have an answer. -/
theorem exists_contains_iff {outerInterval innerInterval : Interval}
    (isOuter : Interval.ofExpr? outer = some outerInterval)
    (isInner : Interval.ofExpr? inner = some innerInterval) :
    (∃ answer, outerInterval.contains equal innerInterval = some answer) ↔
      ¬ outer.Clash inner := by
  rw [clash_iff isOuter isInner, ← Interval.contains_eq_none_iff, ← ne_eq,
    Option.ne_none_iff_exists']

/-- Whether there is an answer does not depend on the equality of values. -/
theorem exists_subsumesBy_iff :
    (∃ answer, subsumesBy equal outer inner = some answer) ↔ outer.Answerable inner := by
  simp only [subsumesBy_eq_some_iff]
  constructor
  · intro answered
    rcases answered with ⟨answer, answers⟩
    cases answers with
    | emptyOuter => exact .emptyOuter inner
    | emptyInner => exact .emptyInner outer
    | atoms sameKind => exact .atoms sameKind
    | intervals isOuter isInner contains =>
      exact .intervals (Interval.ofExpr?_spec isOuter).1 (Interval.ofExpr?_spec isInner).1
        ((exists_contains_iff isOuter isInner).mp ⟨answer, contains⟩)
  · intro answerable
    cases answerable with
    | emptyOuter => exact ⟨true, .emptyOuter inner⟩
    | emptyInner =>
      by_cases isEmpty : outer = .empty
      · rw [isEmpty]
        exact ⟨true, .emptyOuter .empty⟩
      · exact ⟨false, .emptyInner isEmpty⟩
    | atoms sameKind => exact ⟨_, .atoms sameKind⟩
    | intervals outerIs innerIs noClash =>
      rcases outerIs.exists_interval with ⟨outerInterval, isOuter⟩
      rcases innerIs.exists_interval with ⟨innerInterval, isInner⟩
      rcases (exists_contains_iff isOuter isInner).mpr noClash with ⟨answer, contains⟩
      exact ⟨answer, .intervals isOuter isInner contains⟩

theorem subsumesBy_eq_none_iff :
    subsumesBy equal outer inner = none ↔ ¬ outer.Answerable inner := by
  rw [← exists_subsumesBy_iff, ← Option.ne_none_iff_exists', ne_eq, Decidable.not_not]

end Expr

/-! ## What is asked of the equality of values -/

/-- Value equalities that agree about literals of one kind and about variables. -/
def ValueEquality.Agree (equal other : ValueEquality) : Prop :=
  ∀ {a b : Atom}, a.sameKind b = true → equal (.atom a) (.atom b) = other (.atom a) (.atom b)

namespace ValueEquality.Agree

variable {equal other : ValueEquality}

theorem compareBounds_congr (agree : equal.Agree other) (x y : Expr) :
    compareBounds equal x y = compareBounds other x y := by
  unfold compareBounds
  split
  · next a b =>
    apply Option.map_congr
    intro order ordered
    rw [agree (Atom.sameKind_of_compare? ordered)]
  · rfl

theorem subsumesBy_congr (agree : equal.Agree other) (outer inner : Expr) :
    Expr.subsumesBy equal outer inner = Expr.subsumesBy other outer inner := by
  unfold Expr.subsumesBy
  split
  · rfl
  · rfl
  · split
    · next sameKind => rw [agree sameKind]
    · rfl
  · simp only [Interval.contains_congr agree.compareBounds_congr]

end ValueEquality.Agree

namespace Expr

/-- **The equality of values has no part in what can be compared, and neither has the direction.**
And it matters only for literals of one kind and for variables. -/
theorem subsumesBy_eq_none_comm_and_congr (a b : Expr) (equal other : ValueEquality) :
    (subsumesBy equal a b = none ↔ subsumesBy other b a = none) ∧
      (equal.Agree other → subsumesBy equal a b = subsumesBy other a b) := by
  constructor
  · rw [subsumesBy_eq_none_iff, subsumesBy_eq_none_iff]
    exact not_congr ⟨Answerable.symm, Answerable.symm⟩
  · intro agree
    exact agree.subsumesBy_congr a b

/-- An equality that takes a range as equal to everything agrees with equality about literals, and
both find that `[1..5]` subsumes `(1..5)` and that it cannot be compared with `>x`. -/
theorem subsumesBy_eq_none_comm_and_congr_ranges :
    let loose : ValueEquality := fun x y => !x.isAtom || x.same y
    let closed : Expr := .range true (.atom (.integer 1)) (.atom (.integer 5)) true
    let inside : Expr := .range false (.atom (.integer 1)) (.atom (.integer 5)) false
    let named : Expr := .unary .gt (.atom (.variable "x"))
    (ValueEquality.Agree same loose ∧ loose closed .empty = true ∧ closed.same .empty = false) ∧
      subsumesBy loose closed inside = some true ∧
      subsumesBy same closed named = none ∧ subsumesBy loose named closed = none := by
  intro loose closed inside named
  have agree : ValueEquality.Agree same loose := fun _ => rfl
  have answer : subsumesBy same closed inside = some true := by decide +kernel
  have noAnswer : subsumesBy same closed named = none := by decide +kernel
  have settled := (subsumesBy_eq_none_comm_and_congr closed inside same loose).2 agree
  have reversed := (subsumesBy_eq_none_comm_and_congr closed named same loose).1
  exact ⟨⟨agree, rfl, rfl⟩, settled.symm.trans answer, noAnswer, reversed.mp noAnswer⟩

end Expr
end CellCheck
