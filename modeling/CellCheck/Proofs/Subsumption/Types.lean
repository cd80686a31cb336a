import CellCheck.Proofs.Subsumption.Unanswered
import CellCheck.Proofs.Typing.Uniform

/-!
# Subsumption and types

Subsumption does not ask for types, and types are inferred without asking for subsumption.  Still, a
well-typed cell never subsumes a well-typed cell of another type, unless it is the empty one.

Two literals, or two variables, that are equal have the same type in every context.  An interval has
a bound at one side at least.  If it subsumes another interval, the other one has a bound at this
side as well, and both bounds are literals of one ordered kind.  The type of either interval is
then the type of this kind, because types are uniform: an interval has the type of each of its
bounds.
-/

namespace CellCheck

/-- The type of the literals of an ordered kind. -/
def OrderedKind.ty : OrderedKind → Ty
  | integer => .integer
  | double => .double
  | date => .date

theorem Atom.infer_eq_of_same {a b : Atom} (same : a.same b = true) (context : Context) :
    a.infer context = b.infer context := by
  rcases Atom.eq_or_double_of_same same with rfl | ⟨x, y, rfl, rfl, _⟩
  · rfl
  · rfl

/-- A bound is covered only by unbounded ends and by bounds on its own line. -/
theorem Bound.Covers.exists_onOneLine {outward : Ordering} {x : Expr} {included : Bool}
    {inner : Bound} (covers : (Bound.bounded x included).Covers outward inner) :
    ∃ y ∈ inner.value?, x.OnOneLine y := by
  cases covers with
  | bounded outerPlace innerPlace => exact ⟨_, rfl, _, _, _, outerPlace, innerPlace⟩

namespace Expr

theorem infer_of_position? {e : Expr} {kind : OrderedKind} {p : Int}
    (place : e.position? = some (kind, p)) (context : Context) :
    e.infer context = .ok kind.ty := by
  cases e with
  | atom => cases Atom.position?_eq_some_iff.mp place <;> rfl
  | _ => cases place

/-- The bounds of an interval have the type of the interval. -/
theorem infer_of_mem_bounds {context : Context} {e bound : Expr} {ty : Ty}
    (typed : e.infer context = .ok ty) (isBound : bound ∈ e.bounds) :
    bound.infer context = .ok ty := by
  have isChild : bound ∈ e.children := by
    cases e with
    | range | unary => exact isBound
    | _ => cases isBound
  exact (infer_eq_ok_iff.mp typed).2 bound isChild

/-- Intervals with facing bounds on one line have one type. -/
theorem type_eq_of_onOneLine {context : Context} {outer inner x y : Expr} {s t : Ty}
    (outerTyped : outer.infer context = .ok s) (innerTyped : inner.infer context = .ok t)
    (isOuter : x ∈ outer.bounds) (isInner : y ∈ inner.bounds) (onOneLine : x.OnOneLine y) :
    s = t := by
  rcases onOneLine with ⟨kind, p, q, first, second⟩
  have outerType := (infer_of_mem_bounds outerTyped isOuter).symm.trans
    (infer_of_position? first context)
  have innerType := (infer_of_mem_bounds innerTyped isInner).symm.trans
    (infer_of_position? second context)
  rw [Except.ok.inj outerType, Except.ok.inj innerType]

theorem IsInterval.exists_mem_bounds {e : Expr} (isInterval : e.IsInterval) :
    ∃ bound, bound ∈ e.bounds := by
  cases e with
  | range | unary => exact ⟨_, List.mem_cons_self⟩
  | empty | atom | binary | disjunction => exact absurd isInterval id

/-- An interval that covers another at both ends has a bound that faces one on its own line. -/
theorem exists_facing_of_covers {outer inner : Expr} {outerInterval innerInterval : Interval}
    (isOuter : Interval.ofExpr? outer = some outerInterval)
    (isInner : Interval.ofExpr? inner = some innerInterval)
    (lower : outerInterval.lower.Covers .lt innerInterval.lower)
    (upper : outerInterval.upper.Covers .gt innerInterval.upper) :
    ∃ x ∈ outer.bounds, ∃ y ∈ inner.bounds, x.OnOneLine y := by
  have isBound : ∀ side, ∀ y ∈ (innerInterval.endAt side).value?, y ∈ inner.bounds := by
    intro side y isEnd
    rw [← boundAt?_of_ofExpr? isInner] at isEnd
    exact mem_bounds_of_boundAt? isEnd
  rcases Interval.ofExpr?_spec isOuter with ⟨isInterval, ends⟩
  rcases isInterval.exists_mem_bounds with ⟨x, member⟩
  refine ⟨x, member, ?_⟩
  rcases ends x member with ⟨included, isLower | isUpper⟩
  · rw [isLower] at lower
    rcases lower.exists_onOneLine with ⟨y, isEnd, onOneLine⟩
    exact ⟨y, isBound .lower y isEnd, onOneLine⟩
  · rw [isUpper] at upper
    rcases upper.exists_onOneLine with ⟨y, isEnd, onOneLine⟩
    exact ⟨y, isBound .upper y isEnd, onOneLine⟩

/-- **A cell that is not empty subsumes only cells of its own type.** -/
theorem type_eq_of_subsumes {context : Context} {outer inner : Expr} {s t : Ty}
    (nonempty : outer ≠ .empty) (outerTyped : outer.infer context = .ok s)
    (innerTyped : inner.infer context = .ok t) (subsumed : outer.subsumes inner = some true) :
    s = t := by
  cases subsumes_eq_some_true_iff.mp subsumed with
  | empty => exact absurd rfl nonempty
  | atoms same =>
    have sameType := Atom.infer_eq_of_same same context
    exact Except.ok.inj (outerTyped.symm.trans (sameType.trans innerTyped))
  | intervals isOuter isInner lower upper =>
    rcases exists_facing_of_covers isOuter isInner lower upper with
      ⟨x, isOuterBound, y, isInnerBound, onOneLine⟩
    exact type_eq_of_onOneLine outerTyped innerTyped isOuterBound isInnerBound onOneLine

/-- The cell `>0.0` subsumes `[0.5..x]`, and only the lower bounds have been compared.  Both are
doubles if `x` is one, and whatever else `x` is, the second can have no other type. -/
theorem type_eq_of_subsumes_variable :
    let outer : Expr := .unary .gt (.atom (.double .zero))
    let inner : Expr :=
      .range true (.atom (.double (.ofDecimal false ⟨5, -1⟩))) (.atom (.variable "x")) true
    outer ≠ .empty ∧ (∀ ty, outer.infer (.single "x" ty) = .ok .double) ∧
      inner.infer (.single "x" .double) = .ok .double ∧ outer.subsumes inner = some true ∧
      ∀ ty t, inner.infer (.single "x" ty) = .ok t → .double = t := by
  intro outer inner
  have nonempty : outer ≠ .empty := by simp [outer]
  have outerTyped : ∀ ty, outer.infer (.single "x" ty) = .ok .double := fun _ => rfl
  have subsumed : outer.subsumes inner = some true := by decide +kernel
  refine ⟨nonempty, outerTyped, by decide +kernel, subsumed, ?_⟩
  intro ty t innerTyped
  exact type_eq_of_subsumes nonempty (outerTyped ty) innerTyped subsumed

end Expr
end CellCheck
