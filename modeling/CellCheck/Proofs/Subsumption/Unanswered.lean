import CellCheck.Proofs.Printing.RoundTrip
import CellCheck.Proofs.Subsumption.Meaning

/-!
# Questions without an answer

Whether one interval subsumes another has no answer if two bounds that face each other, both lower
or both upper, cannot be compared.  There is no other reason.  The equality of values has no part in
this, and a bound that faces none is never examined: where one of the intervals has no bound, the
question is settled for this side whatever the other interval has there.

So an interval may have a variable as a bound, or bounds of a kind that the other interval has not,
and there is an answer nevertheless.  `>5` is taken to subsume `[6..x]`, and `<x` not to subsume
`>5`.
-/

namespace CellCheck

/-! ## Bounds that can be compared -/

/-- Whether two bounds have positions on the same line. -/
def Expr.OnOneLine (x y : Expr) : Prop :=
  ∃ kind p q, x.position? = some (kind, p) ∧ y.position? = some (kind, q)

theorem Atom.compare?_eq_none_iff {a b : Atom} :
    a.compare? b = none ↔ ¬ Expr.OnOneLine (.atom a) (.atom b) := by
  rw [Option.eq_none_iff_forall_ne_some]
  constructor
  · rintro unordered ⟨kind, p, q, first, second⟩
    exact unordered _ (Atom.compare?_eq_some_iff.mpr ⟨kind, p, q, first, second, rfl⟩)
  · intro apart order ordered
    rcases Atom.compare?_eq_some_iff.mp ordered with ⟨kind, p, q, first, second, _⟩
    exact apart ⟨kind, p, q, first, second⟩

/-- Which bounds can be compared does not depend on what counts as equal. -/
theorem compareBounds_eq_none_iff {equal : ValueEquality} {x y : Expr} :
    compareBounds equal x y = none ↔ ¬ x.OnOneLine y := by
  unfold compareBounds
  split
  · rw [Option.map_eq_none_iff, Atom.compare?_eq_none_iff]
  · next notAtoms =>
    refine iff_of_true rfl ?_
    rintro ⟨kind, p, q, first, second⟩
    cases x <;> try cases first
    cases y <;> try cases second
    exact notAtoms _ _ rfl rfl

/-! ## Bounds that face each other -/

def Bound.value? : Bound → Option Expr
  | unbounded => none
  | bounded value _ => some value

theorem Bound.covers_eq_none_iff {equal : ValueEquality} {outward : Ordering}
    {outer inner : Bound} :
    outer.covers equal outward inner = none ↔
      ∃ x ∈ outer.value?, ∃ y ∈ inner.value?, ¬ x.OnOneLine y := by
  cases outer with
  | unbounded => simp [covers, value?]
  | bounded x =>
    cases inner with
    | unbounded => simp [covers, value?]
    | bounded y => simp [covers, value?, compareBounds_eq_none_iff]

theorem Interval.contains_eq_none_iff {equal : ValueEquality} {outer inner : Interval} :
    outer.contains equal inner = none ↔
      outer.lower.covers equal .lt inner.lower = none ∨
        outer.upper.covers equal .gt inner.upper = none := by
  unfold contains
  cases outer.lower.covers equal .lt inner.lower with
  | none => simp
  | some => cases outer.upper.covers equal .gt inner.upper <;> simp

/-- The sides on which an interval can have a bound. -/
inductive Interval.Side where
  | lower | upper
deriving DecidableEq, Repr

def Interval.endAt (interval : Interval) : Interval.Side → Bound
  | .lower => interval.lower
  | .upper => interval.upper

namespace Expr

/-- The bound of a range or comparison on one side, if it has one there. -/
def boundAt? (side : Interval.Side) (e : Expr) : Option Expr :=
  match side, e with
  | .lower, range _ bound _ _ => some bound
  | .lower, unary .gt bound => some bound
  | .lower, unary .ge bound => some bound
  | .upper, range _ _ bound _ => some bound
  | .upper, unary .lt bound => some bound
  | .upper, unary .le bound => some bound
  | _, _ => none

/-- Whether two intervals have bounds on the same side that cannot be compared. -/
def Clash (outer inner : Expr) : Prop :=
  ∃ side, ∃ x ∈ outer.boundAt? side, ∃ y ∈ inner.boundAt? side, ¬ x.OnOneLine y

/-- Whether all bounds of a range or comparison have positions on one line. -/
def LiesOn (kind : OrderedKind) (e : Expr) : Prop :=
  ∀ bound ∈ e.bounds, ∃ p, bound.position? = some (kind, p)

theorem boundAt?_of_ofExpr? {e : Expr} {interval : Interval}
    (isInterval : Interval.ofExpr? e = some interval) (side : Interval.Side) :
    e.boundAt? side = (interval.endAt side).value? := by
  unfold Interval.ofExpr? at isInterval
  split at isInterval <;> cases isInterval <;> cases side <;> rfl

theorem mem_bounds_of_boundAt? {e bound : Expr} {side : Interval.Side}
    (isBound : bound ∈ e.boundAt? side) : bound ∈ e.bounds := by
  unfold boundAt? at isBound
  split at isBound <;> cases isBound <;> simp [bounds]

theorem IsInterval.exists_interval {e : Expr} (isInterval : e.IsInterval) :
    ∃ interval, Interval.ofExpr? e = some interval := by
  cases e with
  | range => exact ⟨_, rfl⟩
  | unary operator =>
    cases operator with
    | lt | le | gt | ge => exact ⟨_, rfl⟩
    | add | sub | mul | div | exp | and | or | not => cases isInterval
  | empty | atom | binary | disjunction => exact absurd isInterval id

theorem clash_iff {outer inner : Expr} {outerInterval innerInterval : Interval}
    (isOuter : Interval.ofExpr? outer = some outerInterval)
    (isInner : Interval.ofExpr? inner = some innerInterval) {equal : ValueEquality} :
    outer.Clash inner ↔
      outerInterval.lower.covers equal .lt innerInterval.lower = none ∨
        outerInterval.upper.covers equal .gt innerInterval.upper = none := by
  simp only [Clash, boundAt?_of_ofExpr? isOuter, boundAt?_of_ofExpr? isInner,
    Bound.covers_eq_none_iff]
  constructor
  · rintro ⟨side, facing⟩
    cases side with
    | lower => exact .inl facing
    | upper => exact .inr facing
  · rintro (facing | facing)
    · exact ⟨.lower, facing⟩
    · exact ⟨.upper, facing⟩

/-- Intervals on one line do not clash. -/
theorem LiesOn.not_clash {kind : OrderedKind} {outer inner : Expr} (outerLies : outer.LiesOn kind)
    (innerLies : inner.LiesOn kind) : ¬ outer.Clash inner := by
  rintro ⟨side, x, isOuter, y, isInner, notOnOneLine⟩
  rcases outerLies x (mem_bounds_of_boundAt? isOuter) with ⟨p, first⟩
  rcases innerLies y (mem_bounds_of_boundAt? isInner) with ⟨q, second⟩
  exact notOnOneLine ⟨kind, p, q, first, second⟩

/-- **Between intervals an answer is refused exactly if bounds that face each other cannot be
compared.**  Then the bounds of the two are not all of one kind, but this is not enough. -/
theorem subsumesBy_eq_none_iff_clash (equal : ValueEquality) {outer inner : Expr}
    (outerIs : outer.IsInterval) (innerIs : inner.IsInterval) :
    (subsumesBy equal outer inner = none ↔ outer.Clash inner) ∧
      (outer.Clash inner → ¬ ∃ kind, outer.LiesOn kind ∧ inner.LiesOn kind) := by
  rcases outerIs.exists_interval with ⟨outerInterval, isOuter⟩
  rcases innerIs.exists_interval with ⟨innerInterval, isInner⟩
  constructor
  · rw [subsumesBy_intervals isOuter isInner, Interval.contains_eq_none_iff,
      clash_iff isOuter isInner]
  · rintro clash ⟨kind, outerLies, innerLies⟩
    exact outerLies.not_clash innerLies clash

/-- The lower bounds of `>5` and `[x..9]` face each other and cannot be compared, not even if
everything counts as equal. -/
theorem subsumesBy_eq_none_iff_clash_variable :
    let outer : Expr := .unary .gt (.atom (.integer 5))
    let inner : Expr := .range true (.atom (.variable "x")) (.atom (.integer 9)) true
    (outer.IsInterval ∧ inner.IsInterval) ∧ outer.Clash inner ∧
      subsumesBy (fun _ _ => true) outer inner = none ∧
      ¬ ∃ kind, outer.LiesOn kind ∧ inner.LiesOn kind := by
  intro outer inner
  have clash : outer.Clash inner := by
    refine ⟨.lower, _, rfl, _, rfl, ?_⟩
    rintro ⟨kind, p, q, _, second⟩
    cases second
  have answer := @subsumesBy_eq_none_iff_clash (fun _ _ => true) outer inner rfl trivial
  exact ⟨⟨rfl, trivial⟩, clash, answer.1.mpr clash, answer.2 clash⟩

/-- **Bounds that are not all of one kind do not rule out an answer.**  The cell `>5` subsumes
`[6..x]` although `x` is a variable, `<x` does not subsume `>5`, and `>1` does not subsume `<2.0`.
-/
theorem subsumes_despite_unlike_bounds :
    let above : Expr := .unary .gt (.atom (.integer 5))
    let upToName : Expr := .range true (.atom (.integer 6)) (.atom (.variable "x")) true
    let belowName : Expr := .unary .lt (.atom (.variable "x"))
    let aboveOne : Expr := .unary .gt (.atom (.integer 1))
    let belowTwo : Expr := .unary .lt (.atom (.double (.ofDecimal false ⟨20, -1⟩)))
    (Cell.parse ">5" = .ok above ∧ Cell.parse "[6..x]" = .ok upToName ∧
        (¬ ∃ kind, above.LiesOn kind ∧ upToName.LiesOn kind) ∧
        above.subsumes upToName = some true) ∧
      ((¬ ∃ kind, belowName.LiesOn kind ∧ above.LiesOn kind) ∧
        belowName.subsumes above = some false) ∧
      ((¬ ∃ kind, aboveOne.LiesOn kind ∧ belowTwo.LiesOn kind) ∧
        aboveOne.subsumes belowTwo = some false) := by
  intro above upToName belowName aboveOne belowTwo
  have isName : Token.IsName "x" := ⟨⟨'x', [], rfl, by decide, by simp⟩, by decide⟩
  have readAbove : Cell.parse ">5" = .ok above :=
    Grammar.parse_integerComparison rfl (by decide +kernel)
  have readUpToName : Cell.parse "[6..x]" = .ok upToName :=
    Grammar.parse_of_doubles_eq_nil rfl (.single (.range trivial isName)) (by decide +kernel)
  have nameHasNoPlace : ∀ {kind}, ¬ ∃ p, (atom (.variable "x")).position? = some (kind, p) := by
    rintro kind ⟨p, place⟩
    cases place
  refine ⟨⟨readAbove, readUpToName, ?_, by decide +kernel⟩, ⟨?_, by decide +kernel⟩, ?_,
    by decide +kernel⟩
  · rintro ⟨kind, _, lies⟩
    exact nameHasNoPlace (lies (.atom (.variable "x")) (by simp [upToName, bounds]))
  · rintro ⟨kind, lies, _⟩
    exact nameHasNoPlace (lies (.atom (.variable "x")) (by simp [belowName, bounds]))
  · rintro ⟨kind, onIntegers, onDoubles⟩
    rcases onIntegers _ List.mem_cons_self with ⟨p, first⟩
    rcases onDoubles _ List.mem_cons_self with ⟨q, second⟩
    cases first
    simp [position?, Atom.position?] at second

end Expr
end CellCheck
