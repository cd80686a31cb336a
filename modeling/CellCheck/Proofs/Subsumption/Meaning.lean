import CellCheck.Proofs.Subsumption.Basic

/-!
# What cells match

The checker never evaluates a cell.  What it says about cells has to hold in every reasonable
evaluation, and `Meaning` states how much of an evaluation is taken for granted: the empty cell
matches everything, a literal the value that it denotes, and an interval nothing outside the bounds
that can be read off it.  An interval with another bound, say a variable, may match fewer values for
reasons unknown here, and nothing at all is assumed about operations and alternatives.

In every such meaning subsumption is sound.
-/

namespace CellCheck

/-- The values that cells are matched against. -/
inductive Value where
  | boolean (value : Bool)
  | date (value : DateTime)
  | double (value : Double)
  | integer (value : Int64)
  | string (value : String)
deriving DecidableEq

namespace Value

def literal : Value → Atom
  | boolean value => .boolean value
  | date value => .date value
  | double value => .double value
  | integer value => .integer value
  | string value => .string value

/-- Whether a literal denotes the value.  Doubles are compared as numbers. -/
def Equals : Value → Atom → Prop
  | boolean x, .boolean y => x = y
  | date x, .date y => x = y
  | double x, .double y => x.same y = true
  | integer x, .integer y => x = y
  | string x, .string y => x = y
  | _, _ => False

/-- Whether the value lies on one side of a bound, or at the bound if it is included.  A bound that
has no position does not restrict the value; one that has restricts it to its own line. -/
def Lies (v : Value) (side : Ordering) (bound : Expr) (included : Bool) : Prop :=
  ∀ kind q, bound.position? = some (kind, q) →
    ∃ p, v.literal.position? = some (kind, p) ∧ (compare p q = side ∨ included = true ∧ p = q)

/-- Whether the value lies within the bounds of a range or comparison, as far as these have a
position. -/
def Satisfies (v : Value) : Expr → Prop
  | .range lowerIncluded lower upper upperIncluded =>
    v.Lies .gt lower lowerIncluded ∧ v.Lies .lt upper upperIncluded
  | .unary .lt bound => v.Lies .lt bound false
  | .unary .le bound => v.Lies .lt bound true
  | .unary .gt bound => v.Lies .gt bound false
  | .unary .ge bound => v.Lies .gt bound true
  | _ => True

end Value

def Atom.IsLiteral : Atom → Prop
  | .variable _ => False
  | _ => True

namespace Expr

def IsInterval : Expr → Prop
  | range _ _ _ _ => True
  | unary operator _ => operator.isComparison = true
  | _ => False

def bounds : Expr → List Expr
  | range _ lower upper _ => [lower, upper]
  | unary _ bound => [bound]
  | _ => []

end Expr

/-- An evaluation of cells, as far as it is known. -/
structure Meaning where
  Matches : Expr → Value → Prop
  /-- The values that a variable matches, such as the one value that it has. -/
  valuation : String → Value → Prop
  empty : ∀ v, Matches .empty v
  literal : ∀ a v, a.IsLiteral → (Matches (.atom a) v ↔ v.Equals a)
  name : ∀ x v, Matches (.atom (.variable x)) v ↔ valuation x v
  within : ∀ e v, e.IsInterval → Matches e v → v.Satisfies e
  exact : ∀ e v, e.IsInterval → (∀ bound ∈ e.bounds, bound.position? ≠ none) →
    v.Satisfies e → Matches e v

namespace Meaning

/-- The meaning in which expressions match no more than they must. -/
def least (valuation : String → Value → Prop) : Meaning where
  Matches
    | .empty, _ => True
    | .atom (.variable x), v => valuation x v
    | .atom a, v => v.Equals a
    | .range li lower upper ui, v =>
      (∀ bound ∈ [lower, upper], bound.position? ≠ none) ∧ v.Satisfies (.range li lower upper ui)
    | .unary operator operand, v =>
      operator.isComparison = true ∧ operand.position? ≠ none ∧
        v.Satisfies (.unary operator operand)
    | _, _ => False
  valuation := valuation
  empty := fun _ => trivial
  literal := by
    intro a v isLiteral
    cases a with
    | «variable» => exact absurd isLiteral id
    | _ => exact Iff.rfl
  name := fun _ _ => Iff.rfl
  within := by
    intro e v isInterval matched
    cases e with
    | range => exact matched.2
    | unary => exact matched.2.2
    | _ => exact absurd isInterval id
  exact := by
    intro e v isInterval positions satisfies
    cases e with
    | range => exact ⟨positions, satisfies⟩
    | unary => exact ⟨isInterval, positions _ List.mem_cons_self, satisfies⟩
    | _ => exact absurd isInterval id

end Meaning

/-! ## Soundness of subsumption -/

namespace Value

theorem lies_iff {v : Value} {side : Ordering} {bound : Expr} {included : Bool} {kind : OrderedKind}
    {p q : Int} (place : v.literal.position? = some (kind, p))
    (boundPlace : bound.position? = some (kind, q)) :
    v.Lies side bound included ↔ compare p q = side ∨ included = true ∧ p = q := by
  constructor
  · intro lies
    rcases lies kind q boundPlace with ⟨p', place', inside⟩
    rw [place] at place'
    cases place'
    exact inside
  · intro inside kind' q' boundPlace'
    rw [boundPlace] at boundPlace'
    cases boundPlace'
    exact ⟨p, place, inside⟩

/-- Whether the value lies on the inner side of an end of an interval. -/
def LiesWithin (v : Value) (side : Ordering) : Bound → Prop
  | .unbounded => True
  | .bounded bound included => v.Lies side bound included

/-- A value on the inner side of an end is on the inner side of every end that covers it, be it a
lower or an upper end. -/
theorem LiesWithin.of_covers {v : Value} {side : Ordering} {outer inner : Bound}
    (covers : outer.Covers side.swap inner) (lies : v.LiesWithin side inner) :
    v.LiesWithin side outer := by
  cases covers with
  | unbounded => trivial
  | @bounded _ _ _ _ line p q outerPlace innerPlace reaches =>
    rcases lies line q innerPlace with ⟨r, valuePlace, inside⟩
    apply (lies_iff valuePlace outerPlace).mpr
    rcases reaches with farther | ⟨rfl, reaches⟩
    · left
      rw [← Ordering.swap_inj, Int.compare_swap, Ordering.swap_swap] at farther
      rcases inside with inside | ⟨_, rfl⟩
      · cases side <;>
          simp only [Int.compare_eq_lt, Int.compare_eq_gt, Int.compare_eq_eq] at * <;> omega
      · exact farther
    · rcases inside with inside | ⟨innerIs, same⟩
      · exact .inl inside
      · refine .inr ⟨?_, same⟩
        simpa [innerIs] using reaches

/-- The bounds of an expression are the ends of its interval. -/
theorem satisfies_iff {v : Value} {e : Expr} {interval : Interval}
    (isInterval : Interval.ofExpr? e = some interval) :
    v.Satisfies e ↔ v.LiesWithin .gt interval.lower ∧ v.LiesWithin .lt interval.upper := by
  unfold Interval.ofExpr? at isInterval
  split at isInterval <;> cases isInterval
  · exact Iff.rfl
  · exact (iff_of_eq (true_and _)).symm
  · exact (iff_of_eq (true_and _)).symm
  · exact (iff_of_eq (and_true _)).symm
  · exact (iff_of_eq (and_true _)).symm

end Value

/-- Only ranges and comparisons stand for intervals, and each of their bounds is an end. -/
theorem Interval.ofExpr?_spec {e : Expr} {interval : Interval}
    (isInterval : Interval.ofExpr? e = some interval) :
    e.IsInterval ∧ ∀ bound ∈ e.bounds, ∃ included,
      interval.lower = .bounded bound included ∨ interval.upper = .bounded bound included := by
  unfold Interval.ofExpr? at isInterval
  split at isInterval <;> cases isInterval
  · next lowerIncluded lower upper upperIncluded =>
    refine ⟨trivial, ?_⟩
    intro bound member
    rcases List.mem_cons.mp member with rfl | member
    · exact ⟨lowerIncluded, .inl rfl⟩
    · rw [List.mem_singleton.mp member]
      exact ⟨upperIncluded, .inr rfl⟩
  all_goals
    refine ⟨rfl, ?_⟩
    intro bound member
    rw [List.mem_singleton.mp member]
  · exact ⟨false, .inr rfl⟩
  · exact ⟨true, .inr rfl⟩
  · exact ⟨false, .inl rfl⟩
  · exact ⟨true, .inl rfl⟩

theorem Value.Equals.of_same {v : Value} {x y : Double} (same : x.same y = true)
    (equals : v.Equals (.double y)) : v.Equals (.double x) := by
  cases v with
  | double z =>
    rcases Double.same_iff.mp same with ⟨xIsNumber, _, rank⟩
    rcases Double.same_iff.mp equals with ⟨zIsNumber, _, rank'⟩
    apply Double.same_iff.mpr
    exact ⟨zIsNumber, xIsNumber, rank'.trans rank.symm⟩
  | _ => exact absurd equals id

namespace Meaning

/-- A meaning does not tell equal atoms apart. -/
theorem matches_atom_of_same (m : Meaning) {a b : Atom} (same : a.same b = true) {v : Value}
    (matched : m.Matches (.atom b) v) : m.Matches (.atom a) v := by
  rcases Atom.eq_or_double_of_same same with rfl | ⟨x, y, rfl, rfl, sameNumber⟩
  · exact matched
  · have equals := (m.literal (.double y) v trivial).mp matched
    apply (m.literal (.double x) v trivial).mpr
    exact equals.of_same sameNumber

/-- **Subsumption is sound.**  If one expression subsumes another, it matches every value that the
other matches, whatever the meaning. -/
theorem matches_of_subsumes (m : Meaning) {outer inner : Expr}
    (subsumed : outer.subsumes inner = some true) {v : Value} (matched : m.Matches inner v) :
    m.Matches outer v := by
  cases Expr.subsumes_eq_some_true_iff.mp subsumed with
  | empty => exact m.empty v
  | atoms same => exact m.matches_atom_of_same same matched
  | intervals isOuter isInner lowerCovers upperCovers =>
    rcases Interval.ofExpr?_spec isOuter with ⟨outerIsInterval, outerEnds⟩
    have within := m.within inner v (Interval.ofExpr?_spec isInner).1 matched
    rw [Value.satisfies_iff isInner] at within
    apply m.exact outer v outerIsInterval
    · intro bound member
      rcases outerEnds bound member with ⟨included, isLower | isUpper⟩
      · rw [isLower] at lowerCovers
        exact lowerCovers.position?_ne_none
      · rw [isUpper] at upperCovers
        exact upperCovers.position?_ne_none
    · rw [Value.satisfies_iff isOuter]
      exact ⟨within.1.of_covers lowerCovers, within.2.of_covers upperCovers⟩

end Meaning
end CellCheck
