import CellCheck.Proofs.Expr.Subtrees
import CellCheck.Typing.Infer

/-!
# Types are uniform

A tree that has a type is uniform: everything in it has this one type.  The leaves have it by
themselves, and the operators and ranges above them accept it; nothing converts one type into
another on the way to the root.  So a type can be read off a tree without any recursion, by a look
at each node, and this is all that type inference does.

`Expr.Admits` says what a single node asks of the type.  One step of inference asks it of the root
and leaves the rest to the children, and by induction all nodes of the tree are asked.
-/

namespace CellCheck

/-! ## One step of inference -/

theorem TypeError.bind_eq_ok_iff {α : Type} {first : Except TypeError α}
    {next : α → Except TypeError Ty} {ty : Ty} :
    (first >>= next) = .ok ty ↔ ∃ a, first = .ok a ∧ next a = .ok ty := by
  cases first with
  | error problem => simp [bind, Except.bind]
  | ok a => simp [bind, Except.bind]

/-- The type of two parts that must have the same type and pass a check, which does not change the
type. -/
theorem TypeError.both_eq_ok_iff {first second : Except TypeError Ty}
    {mismatch : Ty → Ty → TypeError} {check : Ty → Except TypeError Ty} {ty : Ty}
    (keeps : ∀ {found}, check found = .ok ty → found = ty) :
    (do
      let firstType ← first
      let secondType ← second
      if firstType ≠ secondType then throw (mismatch firstType secondType)
      else check firstType) = .ok ty ↔
      check ty = .ok ty ∧ first = .ok ty ∧ second = .ok ty := by
  simp only [bind_eq_ok_iff]
  constructor
  · rintro ⟨firstType, isFirst, secondType, isSecond, checked⟩
    split at checked
    · cases checked
    · next same =>
      rw [Decidable.not_not] at same
      subst same
      obtain rfl := keeps checked
      exact ⟨checked, isFirst, isSecond⟩
  · rintro ⟨checked, isFirst, isSecond⟩
    exact ⟨ty, isFirst, ty, isSecond, by rw [if_neg (not_not_intro rfl), checked]⟩

theorem Operator.eq_of_infer_eq_ok {operator : Operator} {operands ty : Ty}
    (inferred : operator.infer operands = .ok ty) : operands = ty := by
  unfold infer at inferred
  split at inferred <;> split at inferred <;> cases inferred <;> rfl

theorem Ty.isNumeric_iff {ty : Ty} : ty.isNumeric = true ↔ ty ∈ [Ty.integer, .long, .double] := by
  cases ty <;> simp [isNumeric]

theorem Ty.isOrdered_iff {ty : Ty} :
    ty.isOrdered = true ↔ ty ∈ [Ty.integer, .long, .double, .date] := by
  cases ty <;> simp [isOrdered]

theorem Operator.infer_eq_ok_iff {operator : Operator} {ty : Ty} :
    operator.infer ty = .ok ty ↔
      (operator.kind = .comparison ∨ operator.kind = .arithmetic →
        ty ∈ [Ty.integer, .long, .double]) ∧ (operator.kind = .boolean → ty = .boolean) := by
  rw [← Ty.isNumeric_iff, infer]
  cases operator.kind <;> simp

namespace Expr

/-- What a node asks of the type of the tree that it occurs in. -/
def Admits (context : Context) (ty : Ty) : Expr → Prop
  | empty => ty = .top
  | atom value => value.infer context = .ok ty
  | range _ _ _ _ => ty.isOrdered = true
  | unary operator _ => operator.isComparison = true ∧ operator.infer ty = .ok ty
  | binary _ operator _ => operator.infer ty = .ok ty
  | disjunction _ _ => True

/-- A tree has a type if its root admits the type and its children have it. -/
theorem infer_eq_ok_iff {context : Context} {e : Expr} {ty : Ty} :
    e.infer context = .ok ty ↔
      e.Admits context ty ∧ ∀ child ∈ e.children, child.infer context = .ok ty := by
  cases e with
  | empty => simp [infer, Admits, children, eq_comm]
  | atom => simp [infer, Admits, children]
  | range _ lower upper _ =>
    have keeps : ∀ {found}, (if !found.isOrdered then throw (.unsupportedRangeType found)
        else return found : Except TypeError Ty) = .ok ty → found = ty := by
      intro found checked
      split at checked <;> cases checked
      rfl
    have accepted : (if !ty.isOrdered then throw (.unsupportedRangeType ty)
        else return ty : Except TypeError Ty) = .ok ty ↔ ty.isOrdered = true := by
      cases ty.isOrdered <;> simp [throw, throwThe, MonadExceptOf.throw, pure, Except.pure]
    rw [infer, TypeError.both_eq_ok_iff keeps, accepted]
    simp [Admits, children]
  | unary operator operand =>
    rw [infer]
    cases isComparison : operator.isComparison with
    | false => simp [Admits, isComparison, throw, throwThe, MonadExceptOf.throw]
    | true =>
      rw [if_neg (by simp), TypeError.bind_eq_ok_iff]
      simp only [Admits, isComparison, children, List.forall_mem_singleton, true_and]
      constructor
      · rintro ⟨operandType, inferred, accepted⟩
        obtain rfl := Operator.eq_of_infer_eq_ok accepted
        exact ⟨accepted, inferred⟩
      · rintro ⟨accepted, inferred⟩
        exact ⟨ty, inferred, accepted⟩
  | binary left operator right =>
    rw [infer, TypeError.both_eq_ok_iff Operator.eq_of_infer_eq_ok]
    simp [Admits, children]
  | disjunction head tail =>
    have keeps : ∀ {found}, (pure found : Except TypeError Ty) = .ok ty → found = ty :=
      Except.ok.inj
    rw [infer, TypeError.both_eq_ok_iff keeps]
    simp [Admits, children, pure, Except.pure]

/-! ## All nodes at once -/

/-- A tree has a type if everything that occurs in it admits the type. -/
theorem infer_eq_ok_iff_forall_admits {context : Context} {e : Expr} {ty : Ty} :
    e.infer context = .ok ty ↔ ∀ part ∈ e.subtrees, part.Admits context ty := by
  induction e using induction_children with
  | step e ih =>
    rw [infer_eq_ok_iff, forall_mem_subtrees_iff]
    exact and_congr_right fun _ => forall₂_congr ih

/-- The type that a leaf has by itself.  A variable without a binding has none. -/
inductive LeafType (context : Context) : Expr → Ty → Prop
  | empty : LeafType context .empty .top
  | boolean (value : Bool) : LeafType context (.atom (.boolean value)) .boolean
  | date (value : DateTime) : LeafType context (.atom (.date value)) .date
  | double (value : Double) : LeafType context (.atom (.double value)) .double
  | integer (value : Int64) : LeafType context (.atom (.integer value)) .integer
  | string (value : String) : LeafType context (.atom (.string value)) .string
  | name {name : String} {ty : Ty} (bound : context.type? name = some ty) :
      LeafType context (.atom (.variable name)) ty

/-- A tree in which everything has one type. -/
structure Uniform (context : Context) (ty : Ty) (e : Expr) : Prop where
  leaves : ∀ leaf ∈ e.subtrees, leaf.children = [] → LeafType context leaf ty
  comparisons : ∀ operator operand, unary operator operand ∈ e.subtrees →
    operator.kind = .comparison ∧ ty ∈ [Ty.integer, .long, .double]
  numbers : ∀ left operator right, binary left operator right ∈ e.subtrees →
    operator.kind = .comparison ∨ operator.kind = .arithmetic → ty ∈ [Ty.integer, .long, .double]
  truthValues : ∀ left operator right, binary left operator right ∈ e.subtrees →
    operator.kind = .boolean → ty = .boolean
  ranges : ∀ lowerIncluded lower upper upperIncluded,
    range lowerIncluded lower upper upperIncluded ∈ e.subtrees →
      ty ∈ [Ty.integer, .long, .double, .date]

theorem admits_leaf_iff {context : Context} {ty : Ty} {leaf : Expr} (isLeaf : leaf.children = []) :
    leaf.Admits context ty ↔ LeafType context leaf ty := by
  cases leaf with
  | empty =>
    constructor
    · rintro rfl
      exact .empty
    · intro own
      cases own
      rfl
  | atom value =>
    constructor
    · intro inferred
      cases value with
      | «variable» name =>
        simp only [Admits, Atom.infer] at inferred
        split at inferred <;> cases inferred
        exact .name ‹_›
      | _ =>
        cases inferred
        constructor
    · intro own
      cases own with
      | name bound => simp only [Admits, Atom.infer, bound]
      | _ => rfl
  | _ => cases isLeaf

theorem admits_unary_iff {context : Context} {ty : Ty} {operator : Operator} {operand : Expr} :
    (unary operator operand).Admits context ty ↔
      operator.kind = .comparison ∧ ty ∈ [Ty.integer, .long, .double] := by
  rw [Admits, Operator.isComparison, decide_eq_true_eq]
  refine and_congr_right fun isComparison => ?_
  rw [Operator.infer_eq_ok_iff]
  simp [isComparison]

theorem admits_binary_iff {context : Context} {ty : Ty} {left right : Expr} {operator : Operator} :
    (binary left operator right).Admits context ty ↔
      (operator.kind = .comparison ∨ operator.kind = .arithmetic →
        ty ∈ [Ty.integer, .long, .double]) ∧ (operator.kind = .boolean → ty = .boolean) :=
  Operator.infer_eq_ok_iff

theorem admits_range_iff {context : Context} {ty : Ty} {lower upper : Expr}
    {lowerIncluded upperIncluded : Bool} :
    (range lowerIncluded lower upper upperIncluded).Admits context ty ↔
      ty ∈ [Ty.integer, .long, .double, .date] :=
  Ty.isOrdered_iff

/-- A tree is uniform if everything that occurs in it admits its type. -/
theorem uniform_iff {context : Context} {ty : Ty} {e : Expr} :
    e.Uniform context ty ↔ ∀ part ∈ e.subtrees, part.Admits context ty := by
  constructor
  · intro uniform part member
    cases part with
    | empty => exact (admits_leaf_iff rfl).mpr (uniform.leaves _ member rfl)
    | atom => exact (admits_leaf_iff rfl).mpr (uniform.leaves _ member rfl)
    | range => exact admits_range_iff.mpr (uniform.ranges _ _ _ _ member)
    | unary => exact admits_unary_iff.mpr (uniform.comparisons _ _ member)
    | binary =>
      exact admits_binary_iff.mpr
        ⟨uniform.numbers _ _ _ member, uniform.truthValues _ _ _ member⟩
    | disjunction => trivial
  · intro admitted
    constructor
    · exact fun leaf member isLeaf => (admits_leaf_iff isLeaf).mp (admitted leaf member)
    · exact fun _ _ member => admits_unary_iff.mp (admitted _ member)
    · exact fun _ _ _ member => (admits_binary_iff.mp (admitted _ member)).1
    · exact fun _ _ _ member => (admits_binary_iff.mp (admitted _ member)).2
    · exact fun _ _ _ _ member => admits_range_iff.mp (admitted _ member)

/-- **A tree has a type exactly if it is uniform.**  Its leaves then have this very type by
themselves, so that nothing is converted, and its operators and ranges accept it. -/
theorem infer_eq_ok_iff_uniform (context : Context) (e : Expr) (ty : Ty) :
    e.infer context = .ok ty ↔ e.Uniform context ty := by
  rw [infer_eq_ok_iff_forall_admits, uniform_iff]

end Expr
end CellCheck
