import CellCheck.Proofs.Number.Order
import CellCheck.Subsumption

/-!
# How subsumption answers

Three kinds of literals are ordered, each on a line of its own, and a literal of such a kind has a
position on its line.  A value that is not a number has none, and neither have variables and the
literals of the other kinds.  Subsumption compares two bounds by their positions and only if they
lie on the same line; the equality of literals, which it asks first, never disagrees with them.

`Answers` lists the cases in which two expressions can be compared at all.  What is said about
answers elsewhere goes by these cases and by the ends of intervals, one end at a time.
-/

namespace CellCheck

/-- The kinds of literals that are ordered. -/
inductive OrderedKind where
  | integer | double | date
deriving DecidableEq, Repr

/-- The line of an atom and the place that it has on the line. -/
def Atom.position? : Atom → Option (OrderedKind × Int)
  | .integer value => some (.integer, value.toInt)
  | .double value => if value.isNaN then none else some (.double, value.rank)
  | .date value => some (.date, value.rank)
  | .boolean _ | .string _ | .variable _ => none

inductive Atom.Placed : Atom → OrderedKind → Int → Prop
  | integer (value : Int64) : Placed (.integer value) .integer value.toInt
  | double {value : Double} (isNumber : value.isNaN = false) :
      Placed (.double value) .double value.rank
  | date (value : DateTime) : Placed (.date value) .date value.rank

theorem Atom.position?_eq_some_iff {a : Atom} {kind : OrderedKind} {p : Int} :
    a.position? = some (kind, p) ↔ a.Placed kind p := by
  constructor
  · intro position
    unfold position? at position
    split at position
    · cases position
      exact .integer _
    · split at position
      · cases position
      · next notNaN =>
        cases position
        exact .double (Bool.eq_false_iff.mpr notNaN)
    · cases position
      exact .date _
    all_goals cases position
  · intro placed
    cases placed with
    | integer | date => rfl
    | double isNumber => simp [position?, isNumber]

def Expr.position? : Expr → Option (OrderedKind × Int)
  | atom value => value.position?
  | _ => none

theorem Atom.compare?_eq_some_iff {a b : Atom} {order : Ordering} :
    a.compare? b = some order ↔
      ∃ kind p q, a.position? = some (kind, p) ∧ b.position? = some (kind, q) ∧
        compare p q = order := by
  simp only [position?_eq_some_iff]
  constructor
  · intro compared
    unfold compare? at compared
    split at compared
    · cases compared
      exact ⟨_, _, _, .integer _, .integer _, rfl⟩
    · rcases Double.compare?_eq_some_iff.mp compared with ⟨xIsNumber, yIsNumber, order⟩
      exact ⟨_, _, _, .double xIsNumber, .double yIsNumber, order⟩
    · cases compared
      exact ⟨_, _, _, .date _, .date _, rfl⟩
    · cases compared
  · rintro ⟨kind, p, q, first, second, rfl⟩
    cases first with
    | integer | date =>
      cases second
      rfl
    | double xIsNumber =>
      cases second with
      | double yIsNumber => exact Double.compare?_eq_some_iff.mpr ⟨xIsNumber, yIsNumber, rfl⟩

/-- Atoms are equal if they are the same, or doubles that are equal as numbers. -/
theorem Atom.eq_or_double_of_same {a b : Atom} (same : a.same b = true) :
    a = b ∨ ∃ x y : Double, a = .double x ∧ b = .double y ∧ x.same y = true := by
  unfold Atom.same at same
  split at same
  · exact .inl (congrArg _ (of_decide_eq_true same))
  · exact .inl (congrArg _ (of_decide_eq_true same))
  · next x y => exact .inr ⟨x, y, rfl, rfl, same⟩
  · exact .inl (congrArg _ (of_decide_eq_true same))
  · exact .inl (congrArg _ (of_decide_eq_true same))
  · exact .inl (congrArg _ (of_decide_eq_true same))
  · cases same

theorem Atom.eq_of_same {a b : Atom} {order : Ordering} (same : a.same b = true)
    (compared : a.compare? b = some order) : order = .eq := by
  rcases Atom.compare?_eq_some_iff.mp compared with ⟨kind, p, q, first, second, rfl⟩
  rw [Int.compare_eq_eq]
  rcases Atom.eq_or_double_of_same same with rfl | ⟨x, y, rfl, rfl, same⟩
  · rw [first] at second
    cases second
    rfl
  · rcases Double.same_iff.mp same with ⟨xIsNumber, yIsNumber, rank⟩
    simp only [position?, xIsNumber, yIsNumber, rank, Bool.false_eq_true, if_false] at first second
    rw [first] at second
    cases second
    rfl

theorem compareBounds_same_eq_some_iff {x y : Expr} {order : Ordering} :
    compareBounds Expr.same x y = some order ↔
      ∃ kind p q, x.position? = some (kind, p) ∧ y.position? = some (kind, q) ∧
        compare p q = order := by
  constructor
  · intro compared
    unfold compareBounds at compared
    split at compared
    · next a b =>
      rcases Option.map_eq_some_iff.mp compared with ⟨natural, comparedAtoms, result⟩
      have position := Atom.compare?_eq_some_iff.mp comparedAtoms
      split at result
      · next same =>
        rw [← result, ← Atom.eq_of_same same comparedAtoms]
        exact position
      · rwa [← result]
    · cases compared
  · rintro ⟨kind, p, q, first, second, order⟩
    cases x with
    | atom a =>
      cases y with
      | atom b =>
        have compared := Atom.compare?_eq_some_iff.mpr ⟨kind, p, q, first, second, order⟩
        rw [compareBounds, compared, Option.map_some]
        split
        · next same => rw [Atom.eq_of_same same compared]
        · rfl
      | _ => cases second
    | _ => cases first

/-! ## Cases of an answer -/

/-- Whether an end at one place reaches as far as an end at another: it lies farther out, or it lies
at the same place and is part of the interval if the other one is. -/
def Reaches (outward : Ordering) (p : Int) (included : Bool) (q : Int) (otherIncluded : Bool) :
    Prop :=
  compare p q = outward ∨ p = q ∧ (included || !otherIncluded) = true

/-- The ways in which one end of an interval covers another. -/
inductive Bound.Covers (outward : Ordering) : Bound → Bound → Prop
  | unbounded (inner : Bound) : Covers outward .unbounded inner
  | bounded {outer inner : Expr} {outerIncluded innerIncluded : Bool} {kind : OrderedKind}
      {p q : Int} (outerPlace : outer.position? = some (kind, p))
      (innerPlace : inner.position? = some (kind, q))
      (reaches : Reaches outward p outerIncluded q innerIncluded) :
      Covers outward (.bounded outer outerIncluded) (.bounded inner innerIncluded)

theorem Bound.covers_eq_some_true_iff {outward : Ordering} (directed : outward ≠ .eq)
    {outer inner : Bound} :
    outer.covers Expr.same outward inner = some true ↔ Covers outward outer inner := by
  constructor
  · intro covers
    cases outer with
    | unbounded => exact .unbounded inner
    | bounded outer outerIncluded =>
      cases inner with
      | unbounded => cases covers
      | bounded inner innerIncluded =>
        rcases Option.map_eq_some_iff.mp covers with ⟨order, compared, reaches⟩
        rcases compareBounds_same_eq_some_iff.mp compared with
          ⟨kind, p, q, outerPlace, innerPlace, rfl⟩
        refine .bounded outerPlace innerPlace ?_
        split at reaches
        · next level => exact .inr ⟨Int.compare_eq_eq.mp level, reaches⟩
        · exact .inl (of_decide_eq_true reaches)
  · intro covers
    cases covers with
    | unbounded => rfl
    | bounded outerPlace innerPlace reaches =>
      rw [covers, compareBounds_same_eq_some_iff.mpr ⟨_, _, _, outerPlace, innerPlace, rfl⟩]
      rcases reaches with farther | ⟨level, reaches⟩
      · simp [farther, directed]
      · simp [Int.compare_eq_eq.mpr level, reaches]

theorem Bound.Covers.position?_ne_none {outward : Ordering} {bound : Expr} {included : Bool}
    {inner : Bound} (covers : (Bound.bounded bound included).Covers outward inner) :
    bound.position? ≠ none := by
  cases covers with
  | bounded place =>
    rw [place]
    exact Option.some_ne_none _

/-- An interval is compared end by end. -/
theorem Interval.contains_eq_some_iff {equal : ValueEquality} {outer inner : Interval}
    {answer : Bool} :
    outer.contains equal inner = some answer ↔
      ∃ lower upper, outer.lower.covers equal .lt inner.lower = some lower ∧
        outer.upper.covers equal .gt inner.upper = some upper ∧ (lower && upper) = answer := by
  simp only [contains, bind, Option.bind_eq_some_iff, pure, Option.some.injEq]
  constructor
  · rintro ⟨lower, lowerCovers, upper, upperCovers, both⟩
    exact ⟨lower, upper, lowerCovers, upperCovers, both⟩
  · rintro ⟨lower, upper, lowerCovers, upperCovers, both⟩
    exact ⟨lower, lowerCovers, upper, upperCovers, both⟩

/-- Under two equalities that give bounds the same order intervals are compared in the same way. -/
theorem Interval.contains_congr {equal other : ValueEquality}
    (sameOrder : ∀ x y, compareBounds equal x y = compareBounds other x y)
    (outer inner : Interval) : outer.contains equal inner = outer.contains other inner := by
  have sameCover : ∀ outward (outer inner : Bound),
      outer.covers equal outward inner = outer.covers other outward inner := by
    intro outward outer inner
    cases outer <;> cases inner <;> simp only [Bound.covers, sameOrder]
  simp only [contains, sameCover]

/-- The answers of subsumption. -/
inductive Answers (equal : ValueEquality) : Expr → Expr → Bool → Prop
  | emptyOuter (inner : Expr) : Answers equal .empty inner true
  | emptyInner {outer : Expr} (nonempty : outer ≠ .empty) : Answers equal outer .empty false
  | atoms {a b : Atom} (sameKind : a.sameKind b = true) :
      Answers equal (.atom a) (.atom b) (equal (.atom a) (.atom b))
  | intervals {outer inner : Expr} {outerInterval innerInterval : Interval} {answer : Bool}
      (isOuter : Interval.ofExpr? outer = some outerInterval)
      (isInner : Interval.ofExpr? inner = some innerInterval)
      (contains : outerInterval.contains equal innerInterval = some answer) :
      Answers equal outer inner answer

theorem subsumesBy_intervals {equal : ValueEquality} {outer inner : Expr}
    {outerInterval innerInterval : Interval} (isOuter : Interval.ofExpr? outer = some outerInterval)
    (isInner : Interval.ofExpr? inner = some innerInterval) :
    Expr.subsumesBy equal outer inner = outerInterval.contains equal innerInterval := by
  unfold Expr.subsumesBy
  split
  · cases isOuter
  · cases isInner
  · cases isOuter
  · rw [isOuter, isInner]
    rfl

theorem subsumesBy_eq_some_iff {equal : ValueEquality} {outer inner : Expr} {answer : Bool} :
    Expr.subsumesBy equal outer inner = some answer ↔ Answers equal outer inner answer := by
  constructor
  · intro answered
    unfold Expr.subsumesBy at answered
    split at answered
    · cases answered
      exact .emptyOuter inner
    · next nonempty =>
      cases answered
      exact .emptyInner nonempty
    · split at answered
      · next sameKind =>
        cases answered
        exact .atoms sameKind
      · cases answered
    · simp only [bind, Option.bind_eq_some_iff] at answered
      rcases answered with ⟨outerInterval, isOuter, innerInterval, isInner, contains⟩
      exact .intervals isOuter isInner contains
  · intro answers
    cases answers with
    | emptyOuter => rfl
    | emptyInner nonempty =>
      unfold Expr.subsumesBy
      split
      · exact absurd rfl nonempty
      · rfl
      · next isAtom => cases isAtom
      · next notEmpty _ => exact absurd rfl notEmpty
    | atoms sameKind => exact if_pos sameKind
    | intervals isOuter isInner contains => rw [subsumesBy_intervals isOuter isInner, contains]

/-! ## Positive answers -/

theorem Atom.sameKind_of_same {a b : Atom} (same : a.same b = true) : a.sameKind b = true := by
  unfold Atom.same at same
  split at same <;> first | rfl | cases same

/-- The ways in which one expression subsumes another. -/
inductive Expr.Includes : Expr → Expr → Prop
  | empty (inner : Expr) : Includes .empty inner
  | atoms {a b : Atom} (same : a.same b = true) : Includes (.atom a) (.atom b)
  | intervals {outer inner : Expr} {outerInterval innerInterval : Interval}
      (isOuter : Interval.ofExpr? outer = some outerInterval)
      (isInner : Interval.ofExpr? inner = some innerInterval)
      (lower : outerInterval.lower.Covers .lt innerInterval.lower)
      (upper : outerInterval.upper.Covers .gt innerInterval.upper) : Includes outer inner

theorem Interval.contains_eq_some_true_iff {outer inner : Interval} :
    outer.contains Expr.same inner = some true ↔
      outer.lower.Covers .lt inner.lower ∧ outer.upper.Covers .gt inner.upper := by
  have lowerIff : outer.lower.covers Expr.same .lt inner.lower = some true ↔ _ :=
    Bound.covers_eq_some_true_iff (by decide)
  have upperIff : outer.upper.covers Expr.same .gt inner.upper = some true ↔ _ :=
    Bound.covers_eq_some_true_iff (by decide)
  rw [← lowerIff, ← upperIff, contains_eq_some_iff]
  constructor
  · rintro ⟨lower, upper, lowerCovers, upperCovers, both⟩
    rw [Bool.and_eq_true] at both
    rw [lowerCovers, upperCovers, both.1, both.2]
    exact ⟨rfl, rfl⟩
  · rintro ⟨lowerCovers, upperCovers⟩
    exact ⟨true, true, lowerCovers, upperCovers, rfl⟩

theorem Expr.subsumes_eq_some_true_iff {outer inner : Expr} :
    outer.subsumes inner = some true ↔ outer.Includes inner := by
  constructor
  · intro subsumed
    generalize isTrue : true = answer at subsumed
    cases subsumesBy_eq_some_iff.mp subsumed with
    | emptyOuter => exact .empty inner
    | emptyInner => cases isTrue
    | atoms => exact .atoms isTrue.symm
    | intervals isOuter isInner contains =>
      subst isTrue
      rcases Interval.contains_eq_some_true_iff.mp contains with ⟨lower, upper⟩
      exact .intervals isOuter isInner lower upper
  · intro includes
    apply subsumesBy_eq_some_iff.mpr
    cases includes with
    | empty => exact .emptyOuter inner
    | atoms same =>
      rw [← same]
      exact .atoms (Atom.sameKind_of_same same)
    | intervals isOuter isInner lower upper =>
      exact .intervals isOuter isInner (Interval.contains_eq_some_true_iff.mpr ⟨lower, upper⟩)

end CellCheck
