import CellCheck.Proofs.DateTime
import CellCheck.Proofs.Subsumption.Basic

/-!
# Subsumption as an order

Among the expressions that can be compared, subsumption is a partial order.  It is transitive
without any condition, although comparing is not: an expression that subsumes another has a position
at every bound that is looked at.  Two expressions that subsume each other are the same tree, up to
the sign of a zero.  Which expressions subsume themselves is a matter of their bounds: a variable as
a bound has no position, and a value that is not a number is not even equal to itself.

Everything is proved for one end of an interval first, for lower and upper ends at once.
-/

namespace CellCheck

/-! ## Places on a line -/

/-- In a positional number the last digit and what stands before it are determined. -/
theorem eq_and_eq_of_mul_add_eq {base : Nat} {x y : Int} {m n : Nat} (mLt : m < base)
    (nLt : n < base) (same : x * base + m = y * base + n) : x = y ∧ m = n := by
  have positive : (0 : Int) < base := by omega
  have front : x = y := by
    have quotient : ∀ (z : Int) (k : Nat), k < base → (z * base + k) / base = z := by
      intro z k kLt
      rw [Int.add_comm, Int.add_mul_ediv_right _ _ (Int.ne_of_gt positive),
        Int.ediv_eq_zero_of_lt (Int.natCast_nonneg k) (by omega), Int.zero_add]
    rw [← quotient x m mLt, same, quotient y n nLt]
  subst front
  exact ⟨rfl, by omega⟩

/-- Date-times are placed by all of their fields. -/
theorem DateTime.eq_of_rank_eq {s t : DateTime} (same : s.rank = t.rank) : s = t := by
  have sDay := s.day_le
  have tDay := t.day_le
  rcases s with ⟨y, m, d, h, mi, se, ns, _, mMem, dMem, hLt, miLt, seLe, nsLt⟩
  rcases t with ⟨y', m', d', h', mi', se', ns', _, mMem', dMem', hLt', miLt', seLe', nsLt'⟩
  simp only [rank] at same sDay tDay
  rcases eq_and_eq_of_mul_add_eq nsLt nsLt' same with ⟨seconds, rfl⟩
  rcases eq_and_eq_of_mul_add_eq (show se < 61 by omega) (by omega) seconds with ⟨minutes, rfl⟩
  rcases eq_and_eq_of_mul_add_eq miLt miLt' minutes with ⟨hours, rfl⟩
  rcases eq_and_eq_of_mul_add_eq hLt hLt' hours with ⟨days, rfl⟩
  rcases eq_and_eq_of_mul_add_eq (show d < 32 by omega) (by omega) days with ⟨months, rfl⟩
  rcases eq_and_eq_of_mul_add_eq (show m < 13 by omega) (by omega) months with ⟨rfl, rfl⟩
  rfl

theorem Atom.Placed.same {a b : Atom} {kind : OrderedKind} {p q : Int} (first : a.Placed kind p)
    (second : b.Placed kind q) (level : p = q) : a.same b = true := by
  cases first with
  | integer =>
    cases second
    exact decide_eq_true (Int64.toInt_inj.mp level)
  | double xIsNumber =>
    cases second with
    | double yIsNumber => exact Double.same_iff.mpr ⟨xIsNumber, yIsNumber, level⟩
  | date =>
    cases second
    exact decide_eq_true (DateTime.eq_of_rank_eq level)

theorem Expr.same_of_position?_eq {x y : Expr} {place : OrderedKind × Int}
    (first : x.position? = some place) (second : y.position? = some place) : x.same y = true := by
  cases x with
  | atom a =>
    cases y with
    | atom b =>
      exact (Atom.position?_eq_some_iff.mp first).same (Atom.position?_eq_some_iff.mp second) rfl
    | _ => cases second
  | _ => cases first

theorem Atom.same_self_iff {a : Atom} :
    a.same a = true ↔ ∀ x, a = .double x → x.isNaN = false := by
  cases a with
  | double => simp [Atom.same, Double.same_iff]
  | _ => simp [Atom.same]

theorem Atom.same_trans {a b c : Atom} (first : a.same b = true) (second : b.same c = true) :
    a.same c = true := by
  rcases Atom.eq_or_double_of_same first with rfl | ⟨x, y, rfl, rfl, xSame⟩
  · exact second
  · rcases Atom.eq_or_double_of_same second with rfl | ⟨_, z, same, rfl, ySame⟩
    · exact first
    · cases same
      rw [Double.same_iff] at xSame ySame
      exact Double.same_iff.mpr ⟨xSame.1, ySame.2.1, xSame.2.2.trans ySame.2.2⟩

/-! ## Ends of intervals -/

theorem Reaches.trans {outward : Ordering} {p q r : Int} {i j k : Bool}
    (first : Reaches outward p i q j) (second : Reaches outward q j r k) :
    Reaches outward p i r k := by
  unfold Reaches at *
  cases outward <;> cases i <;> cases j <;> cases k <;>
    simp only [Int.compare_eq_lt, Int.compare_eq_gt, Int.compare_eq_eq, Bool.or_true, Bool.or_false,
      Bool.not_true, Bool.not_false, Bool.false_eq_true, and_true, and_false, or_false] at * <;>
    omega

/-- Ends that reach each other lie at the same place and are both part of their intervals or both
not. -/
theorem Reaches.antisymm {outward : Ordering} (directed : outward ≠ .eq) {p q : Int} {i j : Bool}
    (first : Reaches outward p i q j) (second : Reaches outward q j p i) : p = q ∧ i = j := by
  unfold Reaches at *
  cases outward with
  | eq => exact absurd rfl directed
  | lt | gt =>
    cases i <;> cases j <;>
      simp only [Int.compare_eq_lt, Int.compare_eq_gt, Bool.or_true, Bool.or_false, Bool.not_true,
        Bool.not_false, Bool.false_eq_true, and_true, and_false, or_false] at * <;>
      omega

theorem reaches_self (outward : Ordering) (p : Int) (i : Bool) : Reaches outward p i p i :=
  .inr ⟨rfl, Bool.or_not_self i⟩

namespace Bound

theorem Covers.trans {outward : Ordering} {outer middle inner : Bound}
    (first : outer.Covers outward middle) (second : middle.Covers outward inner) :
    outer.Covers outward inner := by
  cases first with
  | unbounded => exact .unbounded inner
  | bounded outerPlace middlePlace reaches =>
    cases second with
    | bounded middlePlace' innerPlace reaches' =>
      obtain ⟨rfl, rfl⟩ := Prod.mk.inj (Option.some.inj (middlePlace.symm.trans middlePlace'))
      exact .bounded outerPlace innerPlace (reaches.trans reaches')

/-- Equality of ends, with bounds that are equal as values. -/
inductive Same : Bound → Bound → Prop
  | unbounded : Same .unbounded .unbounded
  | bounded {x y : Expr} (included : Bool) (same : x.same y = true) :
      Same (.bounded x included) (.bounded y included)

theorem Covers.antisymm {outward : Ordering} (directed : outward ≠ .eq) {x y : Bound}
    (first : x.Covers outward y) (second : y.Covers outward x) : x.Same y := by
  cases first with
  | unbounded =>
    cases second
    exact .unbounded
  | bounded xPlace yPlace reaches =>
    cases second with
    | bounded yPlace' xPlace' reaches' =>
      obtain ⟨rfl, rfl⟩ := Prod.mk.inj (Option.some.inj (xPlace.symm.trans xPlace'))
      obtain ⟨_, rfl⟩ := Prod.mk.inj (Option.some.inj (yPlace.symm.trans yPlace'))
      rcases reaches.antisymm directed reaches' with ⟨rfl, rfl⟩
      exact .bounded _ (Expr.same_of_position?_eq xPlace yPlace)

theorem covers_self_iff {outward : Ordering} {b : Bound} :
    b.Covers outward b ↔ ∀ x included, b = .bounded x included → x.position? ≠ none := by
  cases b with
  | unbounded => exact iff_of_true (.unbounded _) (by simp)
  | bounded x included =>
    constructor
    · rintro covers _ _ ⟨⟩
      exact covers.position?_ne_none
    · intro positions
      rcases Option.ne_none_iff_exists'.mp (positions x included rfl) with ⟨place, position⟩
      exact .bounded position position (reaches_self outward _ _)

end Bound

/-! ## Expressions -/

/-- Intervals with equal ends come from equal expressions. -/
theorem Interval.same_of_ofExpr? {a b : Expr} {i j : Interval} (isA : ofExpr? a = some i)
    (isB : ofExpr? b = some j) (lower : i.lower.Same j.lower) (upper : i.upper.Same j.upper) :
    a.same b = true := by
  unfold ofExpr? at isA isB
  split at isA <;> cases isA <;> split at isB <;> cases isB <;> cases lower <;> cases upper <;>
    simp_all [Expr.same]

namespace Expr

theorem Includes.trans {a b c : Expr} (first : a.Includes b) (second : b.Includes c) :
    a.Includes c := by
  cases first with
  | empty => exact .empty c
  | atoms same =>
    cases second with
    | atoms same' => exact .atoms (Atom.same_trans same same')
    | intervals isMiddle => cases isMiddle
  | intervals isOuter isMiddle lower upper =>
    cases second with
    | empty => cases isMiddle
    | atoms => cases isMiddle
    | intervals isMiddle' isInner lower' upper' =>
      obtain rfl := Option.some.inj (isMiddle.symm.trans isMiddle')
      exact .intervals isOuter isInner (lower.trans lower') (upper.trans upper')

theorem Includes.antisymm {a b : Expr} (first : a.Includes b) (second : b.Includes a) :
    a.same b = true := by
  cases first with
  | empty =>
    cases second with
    | empty => rfl
    | intervals _ isEmpty => cases isEmpty
  | atoms same => exact same
  | intervals isA isB lower upper =>
    cases second with
    | empty => cases isB
    | atoms => cases isA
    | intervals isB' isA' lower' upper' =>
      obtain rfl := Option.some.inj (isA.symm.trans isA')
      obtain rfl := Option.some.inj (isB.symm.trans isB')
      exact Interval.same_of_ofExpr? isA isB (lower.antisymm (by decide) lower')
        (upper.antisymm (by decide) upper')

/-- A literal of an ordered kind that is a value of it. -/
inductive IsPlaced : Expr → Prop
  | integer (value : Int64) : IsPlaced (.atom (.integer value))
  | date (value : DateTime) : IsPlaced (.atom (.date value))
  | double {value : Double} (isNumber : value.isNaN = false) : IsPlaced (.atom (.double value))

theorem isPlaced_iff {e : Expr} : e.IsPlaced ↔ e.position? ≠ none := by
  constructor
  · intro placed
    cases placed with
    | double isNumber => simp [position?, Atom.position?, isNumber]
    | _ => exact Option.some_ne_none _
  · intro positions
    rcases Option.ne_none_iff_exists'.mp positions with ⟨⟨kind, p⟩, position⟩
    cases e with
    | atom value =>
      cases Atom.position?_eq_some_iff.mp position with
      | integer => exact .integer _
      | date => exact .date _
      | double isNumber => exact .double isNumber
    | _ => cases position

/-- The expressions that can be compared with themselves. -/
inductive Comparable : Expr → Prop
  | empty : Comparable .empty
  | atom {value : Atom} (isNumber : ∀ x, value = .double x → x.isNaN = false) :
      Comparable (.atom value)
  | range {lowerIncluded upperIncluded : Bool} {lower upper : Expr} (first : lower.IsPlaced)
      (second : upper.IsPlaced) : Comparable (.range lowerIncluded lower upper upperIncluded)
  | comparison {operator : Operator} {bound : Expr} (isComparison : operator.isComparison = true)
      (placed : bound.IsPlaced) : Comparable (.unary operator bound)

theorem comparable_range_iff {lowerIncluded upperIncluded : Bool} {lower upper : Expr} :
    (range lowerIncluded lower upper upperIncluded).Comparable ↔
      lower.IsPlaced ∧ upper.IsPlaced := by
  constructor
  · intro comparable
    cases comparable with
    | range first second => exact ⟨first, second⟩
  · exact fun placed => .range placed.1 placed.2

theorem comparable_unary_iff {operator : Operator} {bound : Expr} :
    (unary operator bound).Comparable ↔ operator.isComparison = true ∧ bound.IsPlaced := by
  constructor
  · intro comparable
    cases comparable with
    | comparison isComparison placed => exact ⟨isComparison, placed⟩
  · exact fun given => .comparison given.1 given.2

/-- An interval can be compared with itself if its ends cover themselves. -/
theorem comparable_iff_of_interval {e : Expr} {interval : Interval}
    (isInterval : Interval.ofExpr? e = some interval) :
    e.Comparable ↔
      interval.lower.Covers .lt interval.lower ∧ interval.upper.Covers .gt interval.upper := by
  simp only [Bound.covers_self_iff, ← isPlaced_iff]
  unfold Interval.ofExpr? at isInterval
  split at isInterval <;> cases isInterval <;>
    simp [comparable_range_iff, comparable_unary_iff, Operator.isComparison, Operator.kind]

theorem includes_self_iff {e : Expr} : e.Includes e ↔ e.Comparable := by
  constructor
  · intro includes
    cases includes with
    | empty => exact .empty
    | atoms same => exact .atom (Atom.same_self_iff.mp same)
    | intervals isOuter isInner lower upper =>
      obtain rfl := Option.some.inj (isOuter.symm.trans isInner)
      exact (comparable_iff_of_interval isOuter).mpr ⟨lower, upper⟩
  · intro comparable
    cases isInterval : Interval.ofExpr? e with
    | some interval =>
      rcases (comparable_iff_of_interval isInterval).mp comparable with ⟨lower, upper⟩
      exact .intervals isInterval isInterval lower upper
    | none =>
      cases comparable with
      | empty => exact .empty _
      | atom isNumber => exact .atoms (Atom.same_self_iff.mpr isNumber)
      | range => cases isInterval
      | @comparison operator _ isComparison =>
        cases operator <;>
          simp [Interval.ofExpr?, Operator.isComparison, Operator.kind] at isInterval isComparison

/-- **Subsumption is a partial order on the expressions that it can compare.**  It is transitive,
expressions that subsume each other are equal as values, and an expression subsumes itself exactly
if it is the empty cell, an atom that is a value, or an interval whose bounds are values. -/
theorem subsumes_partialOrder :
    (∀ a b c : Expr, a.subsumes b = some true → b.subsumes c = some true →
      a.subsumes c = some true) ∧
    (∀ a b : Expr, a.subsumes b = some true → b.subsumes a = some true → a.same b = true) ∧
    ∀ a : Expr, a.subsumes a = some true ↔ a.Comparable := by
  simp only [subsumes_eq_some_true_iff]
  refine ⟨?_, ?_, ?_⟩
  · exact fun _ _ _ first second => first.trans second
  · exact fun _ _ first second => first.antisymm second
  · exact fun _ => includes_self_iff

/-- The bounds of `[-0.0..9]` are of two kinds.  The range lies between `>=0.0` and `(0.0..9]`, and
is the same as `[0.0..9]`. -/
theorem subsumes_partialOrder_mixed :
    let ray : Expr := .unary .ge (.atom (.double .zero))
    let mixed : Expr := .range true (.atom (.double ⟨true, 0, by decide⟩)) (.atom (.integer 9)) true
    let equal : Expr := .range true (.atom (.double .zero)) (.atom (.integer 9)) true
    let inner : Expr := .range false (.atom (.double .zero)) (.atom (.integer 9)) true
    (ray.subsumes mixed = some true ∧ mixed.subsumes inner = some true ∧
        ray.subsumes inner = some true) ∧
      (mixed.subsumes equal = some true ∧ equal.subsumes mixed = some true ∧
        mixed.same equal = true) ∧
      mixed.Comparable ∧ mixed.subsumes mixed = some true := by
  intro ray mixed equal inner
  rcases subsumes_partialOrder with ⟨transitive, antisymmetric, reflexive⟩
  have aboveMixed : ray.subsumes mixed = some true := by decide +kernel
  have aboveInner : mixed.subsumes inner = some true := by decide +kernel
  have aboveEqual : mixed.subsumes equal = some true := by decide +kernel
  have belowEqual : equal.subsumes mixed = some true := by decide +kernel
  have comparable : mixed.Comparable := .range (.double rfl) (.integer 9)
  exact ⟨⟨aboveMixed, aboveInner, transitive _ _ _ aboveMixed aboveInner⟩,
    ⟨aboveEqual, belowEqual, antisymmetric _ _ aboveEqual belowEqual⟩,
    comparable, (reflexive mixed).mpr comparable⟩

end Expr
end CellCheck
