import CellCheck.Proofs.Number.Order
import CellCheck.Proofs.Subsumption.Basic
import Mathlib.Algebra.Order.Field.Basic
import Mathlib.Algebra.Order.Field.Rat
import Mathlib.Order.Interval.Set.LinearOrder
import Mathlib.Order.UpperLower.Basic

/-!
# Subsumption as inclusion

Between intervals with bounds of one ordered kind, subsumption is inclusion of sets, once the values
of the kind have been placed among the rational numbers.  Which order-preserving placement is taken
does not matter.  The line has to be dense: between the integers 1 and 2 there is no integer, but
subsumption does not know this and does not take `(1..2)` to lie within `[5..5]`.

An end of an interval is a ray.  Subsumption answers for each end whether one ray includes the
other, and the upper ends are lower ends of the reversed line, so that one statement is enough for
both.  Only an empty inner interval is included in others without its ends showing it.
-/

namespace CellCheck

/-! ## Rays -/

section Rays

variable {α : Type} [LinearOrder α]

/-- All that lies above a point, with the point or without it. -/
def ray (start : α) (included : Bool) : Set α :=
  if included then Set.Ici start else Set.Ioi start

theorem isUpperSet_ray (start : α) (included : Bool) : IsUpperSet (ray start included) := by
  unfold ray
  split
  · exact isUpperSet_Ici start
  · exact isUpperSet_Ioi start

theorem ray_subset_ray_iff [DenselyOrdered α] {outer inner : α} {outerIncluded innerIncluded : Bool} :
    ray inner innerIncluded ⊆ ray outer outerIncluded ↔
      outer < inner ∨ outer = inner ∧ (outerIncluded || !innerIncluded) = true := by
  have atMost : outer ≤ inner ↔ outer < inner ∨ outer = inner := le_iff_lt_or_eq
  cases outerIncluded <;> cases innerIncluded <;> simp [ray, atMost]

theorem not_univ_subset_ray [NoMinOrder α] (start : α) (included : Bool) :
    ¬ Set.univ ⊆ ray start included := by
  intro all
  rcases exists_lt start with ⟨below, isBelow⟩
  have member := all (Set.mem_univ below)
  unfold ray at member
  split at member
  · exact absurd isBelow (not_lt_of_ge member)
  · exact absurd isBelow (lt_asymm member)

/-- Below an end that cuts it off, a set that is cut off elsewhere shows all of its rays. -/
theorem subset_of_inter_subset {lower lower' upper : Set α} (isUpper : IsUpperSet lower')
    (isLower : IsLowerSet upper) (nonempty : (lower ∩ upper).Nonempty)
    (included : lower ∩ upper ⊆ lower') : lower ⊆ lower' := by
  intro x member
  rcases nonempty with ⟨y, yLower, yUpper⟩
  rcases le_total y x with above | below
  · exact isUpper above (included ⟨yLower, yUpper⟩)
  · exact included ⟨member, isLower below yUpper⟩

end Rays

/-! ## Kinds on the rational line -/

/-- The literals of an ordered kind.  Only finite doubles have a place among the rational
numbers. -/
def OrderedKind.Has : OrderedKind → Atom → Prop
  | .integer, .integer _ => True
  | .double, .double value => value.isFinite = true
  | .date, .date _ => True
  | _, _ => False

/-- A placement of the literals of a kind among the rational numbers that preserves their order. -/
structure Embedding (kind : OrderedKind) where
  place : Atom → ℚ
  lt_iff : ∀ {a b p q}, kind.Has a → kind.Has b → a.position? = some (kind, p) →
    b.position? = some (kind, q) → (place a < place b ↔ p < q)

theorem OrderedKind.Has.exists_position {kind : OrderedKind} {a : Atom} (has : kind.Has a) :
    ∃ p, a.position? = some (kind, p) := by
  cases kind <;> cases a <;> try exact absurd has id
  case integer value => exact ⟨_, rfl⟩
  case date value => exact ⟨_, rfl⟩
  case double value =>
    have isNumber : value.isNaN = false := by
      simp only [OrderedKind.Has, Double.isFinite, Double.isNaN, decide_eq_true_eq,
        decide_eq_false_iff_not] at *
      omega
    refine ⟨value.rank, ?_⟩
    rw [Atom.position?, isNumber, if_neg Bool.false_ne_true]

/-- The value of a literal: of a double in units, of a date-time by its rank. -/
def Atom.value : Atom → ℚ
  | .integer value => value.toInt
  | .double value => value.units
  | .date value => value.rank
  | _ => 0

theorem Atom.value_lt_value_iff {kind : OrderedKind} {a b : Atom} {p q : Int} (hasA : kind.Has a)
    (hasB : kind.Has b) (placeA : a.position? = some (kind, p))
    (placeB : b.position? = some (kind, q)) : a.value < b.value ↔ p < q := by
  cases kind <;> cases a <;> (try exact absurd hasA id) <;> cases b <;> try exact absurd hasB id
  case integer x y =>
    cases placeA
    cases placeB
    exact Int.cast_lt
  case date x y =>
    cases placeA
    cases placeB
    exact Int.cast_lt
  case double x y =>
    simp only [position?] at placeA placeB
    split at placeA
    · cases placeA
    · split at placeB
      · cases placeB
      · cases placeA
        cases placeB
        exact Int.cast_lt.trans (Double.units_lt_units_iff x y)

def Embedding.byValue (kind : OrderedKind) : Embedding kind where
  place := Atom.value
  lt_iff := Atom.value_lt_value_iff

/-! ## Ends of intervals -/

/-- Whether an end of an interval is a literal of a kind, if there is one at all. -/
def Bound.IsOf (kind : OrderedKind) : Bound → Prop
  | .unbounded => True
  | .bounded (.atom a) _ => kind.Has a
  | .bounded _ _ => False

/-- The ray that a lower end leaves of a line. -/
def Bound.region {α : Type} [LinearOrder α] (place : Atom → α) : Bound → Set α
  | .unbounded => Set.univ
  | .bounded (.atom a) included => ray (place a) included
  | .bounded _ _ => ∅

theorem Bound.isUpperSet_region {α : Type} [LinearOrder α] (place : Atom → α) (bound : Bound) :
    IsUpperSet (bound.region place) := by
  unfold region
  split
  · exact isUpperSet_univ
  · exact isUpperSet_ray _ _
  · exact isUpperSet_empty

/-- A placement on a line whose direction is such that `outward` means below. -/
def Preserves {α : Type} [LinearOrder α] (kind : OrderedKind) (outward : Ordering)
    (place : Atom → α) : Prop :=
  ∀ {a b p q}, kind.Has a → kind.Has b → a.position? = some (kind, p) →
    b.position? = some (kind, q) →
      (place a < place b ↔ compare p q = outward) ∧ (place a = place b ↔ p = q)

/-- An end covers another exactly if its ray includes the other's. -/
theorem Bound.exists_covers {α : Type} [LinearOrder α] [DenselyOrdered α] [NoMinOrder α]
    {kind : OrderedKind} {outward : Ordering} {place : Atom → α}
    (preserves : Preserves kind outward place) {outer inner : Bound} (outerIs : outer.IsOf kind)
    (innerIs : inner.IsOf kind) :
    ∃ answer, outer.covers Expr.same outward inner = some answer ∧
      (answer = true ↔ inner.region place ⊆ outer.region place) := by
  cases outer with
  | unbounded => exact ⟨true, rfl, fun _ => Set.subset_univ _, fun _ => rfl⟩
  | bounded outerBound outerIncluded =>
    cases outerBound <;> try exact absurd outerIs id
    next a =>
    cases inner with
    | unbounded =>
      refine ⟨false, rfl, ?_, fun all => absurd all (not_univ_subset_ray _ _)⟩
      intro impossible
      cases impossible
    | bounded innerBound innerIncluded =>
      cases innerBound <;> try exact absurd innerIs id
      next b =>
      rcases OrderedKind.Has.exists_position outerIs with ⟨p, placeA⟩
      rcases OrderedKind.Has.exists_position innerIs with ⟨q, placeB⟩
      have compared : compareBounds Expr.same (.atom a) (.atom b) = some (compare p q) :=
        compareBounds_same_eq_some_iff.mpr ⟨kind, p, q, placeA, placeB, rfl⟩
      rcases preserves outerIs innerIs placeA placeB with ⟨below, equal⟩
      -- Only if both ends are at the same place does it matter whether they are included.
      rw [covers, compared, Option.map_some]
      refine ⟨_, rfl, ?_⟩
      rw [region, region, ray_subset_ray_iff]
      split
      · next same =>
        rw [Int.compare_eq_eq, ← equal] at same
        simp [same]
      · next different =>
        rw [Int.compare_eq_eq, ← equal] at different
        simp [different, below]

theorem Embedding.preserves {kind : OrderedKind} (φ : Embedding kind) :
    Preserves kind .lt φ.place := by
  intro a b p q hasA hasB placeA placeB
  have below := φ.lt_iff hasA hasB placeA placeB
  have above := φ.lt_iff hasB hasA placeB placeA
  refine ⟨below.trans Int.compare_eq_lt.symm, ?_⟩
  rw [eq_iff_le_not_lt, ← not_lt, below, above]
  omega

/-- On the reversed line the upper ends are lower ends. -/
theorem Embedding.preserves_reversed {kind : OrderedKind} (φ : Embedding kind) :
    Preserves kind .gt fun a => OrderDual.toDual (φ.place a) := by
  intro a b p q hasA hasB placeA placeB
  have above := φ.lt_iff hasB hasA placeB placeA
  refine ⟨(OrderDual.toDual_lt_toDual.trans above).trans Int.compare_eq_gt.symm, ?_⟩
  exact (OrderDual.toDual_inj).trans (φ.preserves hasA hasB placeA placeB).2

/-! ## Expressions as sets -/

/-- The rational numbers within the bounds of a range or comparison. -/
def Expr.points (place : Atom → ℚ) : Expr → Set ℚ
  | .range lowerIncluded (.atom lower) (.atom upper) upperIncluded =>
    (if lowerIncluded then Set.Ici (place lower) else Set.Ioi (place lower)) ∩
      (if upperIncluded then Set.Iic (place upper) else Set.Iio (place upper))
  | .unary .lt (.atom bound) => Set.Iio (place bound)
  | .unary .le (.atom bound) => Set.Iic (place bound)
  | .unary .gt (.atom bound) => Set.Ioi (place bound)
  | .unary .ge (.atom bound) => Set.Ici (place bound)
  | _ => ∅

/-- The ranges and comparisons whose bounds are literals of a kind. -/
inductive IntervalOf (kind : OrderedKind) : Expr → Prop
  | range {lowerIncluded upperIncluded : Bool} {lower upper : Atom} (hasLower : kind.Has lower)
      (hasUpper : kind.Has upper) :
      IntervalOf kind (.range lowerIncluded (.atom lower) (.atom upper) upperIncluded)
  | comparison {operator : Operator} {bound : Atom} (isComparison : operator.isComparison = true)
      (has : kind.Has bound) : IntervalOf kind (.unary operator (.atom bound))

theorem preimage_ray_toDual (start : ℚ) (included : Bool) :
    Set.preimage OrderDual.toDual (ray (OrderDual.toDual start) included) =
      if included then Set.Iic start else Set.Iio start := by
  unfold ray
  split <;> rfl

/-- The points that two ends leave. -/
def Interval.points (place : Atom → ℚ) (interval : Interval) : Set ℚ :=
  interval.lower.region place ∩
    Set.preimage OrderDual.toDual (interval.upper.region fun a => OrderDual.toDual (place a))

theorem IntervalOf.exists_interval {kind : OrderedKind} {e : Expr}
    (isInterval : IntervalOf kind e) (place : Atom → ℚ) :
    ∃ interval, Interval.ofExpr? e = some interval ∧ interval.lower.IsOf kind ∧
      interval.upper.IsOf kind ∧ e.points place = interval.points place := by
  cases isInterval with
  | @range lowerIncluded upperIncluded lower upper hasLower hasUpper =>
    refine ⟨_, rfl, hasLower, hasUpper, ?_⟩
    rw [Interval.points, Bound.region, Bound.region, preimage_ray_toDual]
    rfl
  | @comparison operator bound isComparison has =>
    cases operator with
    | lt => exact ⟨_, rfl, trivial, has, (Set.univ_inter _).symm⟩
    | le => exact ⟨_, rfl, trivial, has, (Set.univ_inter _).symm⟩
    | gt => exact ⟨_, rfl, has, trivial, (Set.inter_univ _).symm⟩
    | ge => exact ⟨_, rfl, has, trivial, (Set.inter_univ _).symm⟩
    | add | sub | mul | div | exp | and | or | not => cases isComparison

/-- What two ends leave is included in what two others leave if both ends are covered, and unless
it is empty only then. -/
theorem Interval.points_subset_points_iff {place : Atom → ℚ} {outer inner : Interval}
    (nonempty : (inner.points place).Nonempty) :
    inner.points place ⊆ outer.points place ↔
      inner.lower.region place ⊆ outer.lower.region place ∧
        inner.upper.region (fun a => OrderDual.toDual (place a)) ⊆
          outer.upper.region fun a => OrderDual.toDual (place a) := by
  constructor
  · intro included
    constructor
    · apply subset_of_inter_subset (outer.lower.isUpperSet_region place)
        (inner.upper.isUpperSet_region _).ofDual nonempty
      exact fun _ member => (included member).1
    · apply subset_of_inter_subset (outer.upper.isUpperSet_region _)
        (inner.lower.isUpperSet_region place).toDual
      · rcases nonempty with ⟨x, above, below⟩
        exact ⟨OrderDual.toDual x, below, above⟩
      · exact fun _ member => (included ⟨member.2, member.1⟩).2
  · rintro ⟨lowerIncluded, upperIncluded⟩
    exact Set.inter_subset_inter lowerIncluded (Set.preimage_mono upperIncluded)

/-- **Subsumption between intervals of one kind is inclusion.**  There always is an answer, a
positive one is right, and unless the inner interval is empty a negative one is right as well. -/
theorem subsumes_eq_some_true_iff_subset {kind : OrderedKind} (φ : Embedding kind)
    {outer inner : Expr} (outerIs : IntervalOf kind outer) (innerIs : IntervalOf kind inner) :
    outer.subsumes inner ≠ none ∧
      (outer.subsumes inner = some true → inner.points φ.place ⊆ outer.points φ.place) ∧
      ((inner.points φ.place).Nonempty →
        (outer.subsumes inner = some true ↔ inner.points φ.place ⊆ outer.points φ.place)) := by
  rcases outerIs.exists_interval φ.place with ⟨o, isOuter, outerLower, outerUpper, outerPoints⟩
  rcases innerIs.exists_interval φ.place with ⟨i, isInner, innerLower, innerUpper, innerPoints⟩
  rcases Bound.exists_covers φ.preserves outerLower innerLower with ⟨lower, lowerCovers, lowerIff⟩
  rcases Bound.exists_covers φ.preserves_reversed outerUpper innerUpper with
    ⟨upper, upperCovers, upperIff⟩
  have answered : outer.subsumes inner = some (lower && upper) := by
    rw [Expr.subsumes, subsumesBy_intervals isOuter isInner]
    exact Interval.contains_eq_some_iff.mpr ⟨lower, upper, lowerCovers, upperCovers, rfl⟩
  have positive : outer.subsumes inner = some true ↔
      i.lower.region φ.place ⊆ o.lower.region φ.place ∧
        i.upper.region (fun a => OrderDual.toDual (φ.place a)) ⊆
          o.upper.region fun a => OrderDual.toDual (φ.place a) := by
    rw [answered, Option.some.injEq, Bool.and_eq_true, lowerIff, upperIff]
  rw [innerPoints, outerPoints]
  refine ⟨?_, ?_, ?_⟩
  · rw [answered]
    exact Option.some_ne_none _
  · intro subsumed
    rcases positive.mp subsumed with ⟨lowerIncluded, upperIncluded⟩
    exact Set.inter_subset_inter lowerIncluded (Set.preimage_mono upperIncluded)
  · intro nonempty
    exact positive.trans (Interval.points_subset_points_iff nonempty).symm

/-- There is no integer in `(1..2)`, but there is a rational number, so `[1..9]` subsumes the range
and `[5..5]` does not. -/
theorem subsumes_open_range :
    let inner : Expr := .range false (.atom (.integer 1)) (.atom (.integer 2)) false
    let wide : Expr := .range true (.atom (.integer 1)) (.atom (.integer 9)) true
    let far : Expr := .range true (.atom (.integer 5)) (.atom (.integer 5)) true
    (wide.subsumes inner = some true ∧ inner.points Atom.value ⊆ wide.points Atom.value) ∧
      (far.subsumes inner = some false ∧ ¬ inner.points Atom.value ⊆ far.points Atom.value) := by
  intro inner wide far
  have innerIs : IntervalOf .integer inner := .range trivial trivial
  have wideIs : IntervalOf .integer wide := .range trivial trivial
  have farIs : IntervalOf .integer far := .range trivial trivial
  have nonempty : (inner.points Atom.value).Nonempty := by
    have between : Atom.value (.integer 1) < Atom.value (.integer 2) := one_lt_two
    rcases exists_between between with ⟨x, above, below⟩
    exact ⟨x, above, below⟩
  have wideIff := (subsumes_eq_some_true_iff_subset (.byValue .integer) wideIs innerIs).2.2 nonempty
  have farIff := (subsumes_eq_some_true_iff_subset (.byValue .integer) farIs innerIs).2.2 nonempty
  have wideAnswer : wide.subsumes inner = some true := by decide +kernel
  have farAnswer : far.subsumes inner = some false := by decide +kernel
  refine ⟨⟨wideAnswer, wideIff.mp wideAnswer⟩, farAnswer, ?_⟩
  intro included
  have positive := farIff.mpr included
  rw [farAnswer] at positive
  cases positive

end CellCheck
