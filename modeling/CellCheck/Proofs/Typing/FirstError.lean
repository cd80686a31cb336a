import CellCheck.Proofs.Typing.Uniform

/-!
# The first type error

Inference goes through a tree from left to right and visits a node after its children.  There is one
exception: an operator that may not stand in front of an operand at all is refused before its operand
is looked at.  `Expr.visits` lists the nodes of a tree in this order, each with its place.

A node may violate a rule of its own, which is a matter of the types of its children
(`Expr.Violates`).  The error of a tree is the one of the first node that does.  What would be visited
later plays no part: it can be exchanged for anything (`Expr.SameUpTo`) and the error stays.

Both statements follow from one description of where the first violation is: it is at the root, or
in the first child that has one, and then at the same place there.
-/

namespace CellCheck

/-! ## The first element of a list -/

/-- The first element of a list that has not passed is one that has been looked for. -/
def FirstSuch {α : Type} (passed found : α → Prop) (xs : List α) : Prop :=
  ∃ before x after, xs = before ++ x :: after ∧ (∀ y ∈ before, passed y) ∧ found x

section FirstSuch

variable {α β : Type} {passed found : α → Prop} {xs ys : List α}

theorem not_firstSuch_nil : ¬ FirstSuch passed found [] := by
  rintro ⟨before, x, after, split, _⟩
  cases before <;> cases split

theorem firstSuch_cons_iff {x : α} :
    FirstSuch passed found (x :: xs) ↔ found x ∨ passed x ∧ FirstSuch passed found xs := by
  constructor
  · rintro ⟨before, y, after, split, passes, isFound⟩
    cases before with
    | nil =>
      cases split
      exact .inl isFound
    | cons first before =>
      cases split
      rw [List.forall_mem_cons] at passes
      exact .inr ⟨passes.1, before, y, after, rfl, passes.2, isFound⟩
  · rintro (isFound | ⟨passes, before, y, after, rfl, passesOthers, isFound⟩)
    · exact ⟨[], x, xs, rfl, List.forall_mem_nil _, isFound⟩
    · exact ⟨x :: before, y, after, rfl, List.forall_mem_cons.mpr ⟨passes, passesOthers⟩, isFound⟩

theorem firstSuch_append_iff :
    FirstSuch passed found (xs ++ ys) ↔
      FirstSuch passed found xs ∨ (∀ x ∈ xs, passed x) ∧ FirstSuch passed found ys := by
  induction xs with
  | nil => simp [not_firstSuch_nil]
  | cons x xs ih =>
    rw [List.cons_append, firstSuch_cons_iff, firstSuch_cons_iff, List.forall_mem_cons, ih,
      and_or_left, or_assoc, and_assoc]

theorem firstSuch_map_iff {f : β → α} {zs : List β} :
    FirstSuch passed found (zs.map f) ↔
      FirstSuch (fun z => passed (f z)) (fun z => found (f z)) zs := by
  induction zs with
  | nil => simp [not_firstSuch_nil]
  | cons z zs ih => rw [List.map_cons, firstSuch_cons_iff, firstSuch_cons_iff, ih]

theorem firstSuch_congr {passed' found' : α → Prop} (samePassed : ∀ x ∈ xs, (passed x ↔ passed' x))
    (sameFound : ∀ x ∈ xs, (found x ↔ found' x)) :
    FirstSuch passed found xs ↔ FirstSuch passed' found' xs := by
  induction xs with
  | nil => simp [not_firstSuch_nil]
  | cons x xs ih =>
    rw [List.forall_mem_cons] at samePassed sameFound
    rw [firstSuch_cons_iff, firstSuch_cons_iff, samePassed.1, sameFound.1,
      ih samePassed.2 sameFound.2]

theorem forall_or_firstSuch (passed : α → Prop) (xs : List α) :
    (∀ x ∈ xs, passed x) ∨ FirstSuch passed (fun x => ¬ passed x) xs := by
  induction xs with
  | nil => exact .inl (List.forall_mem_nil _)
  | cons x xs ih =>
    rw [List.forall_mem_cons, firstSuch_cons_iff]
    rcases Classical.em (passed x) with passes | stops
    · rcases ih with allPass | first
      · exact .inl ⟨passes, allPass⟩
      · exact .inr (.inr ⟨passes, first⟩)
    · exact .inr (.inl stops)

theorem FirstSuch.exists_mem (first : FirstSuch passed found xs) : ∃ x ∈ xs, found x := by
  rcases first with ⟨before, x, after, rfl, _, isFound⟩
  exact ⟨x, List.mem_append_right _ List.mem_cons_self, isFound⟩

end FirstSuch

/-! ## Rules -/

/-- The operands that an operator refuses, and the error about them. -/
inductive Operator.Refuses (operator : Operator) (operands : Ty) : TypeError → Prop
  | notNumeric (onNumbers : operator.kind = .comparison ∨ operator.kind = .arithmetic)
      (other : operands ∉ [Ty.integer, .long, .double]) :
      Refuses operator operands (.nonNumericOperand operator operands)
  | notBoolean (onTruthValues : operator.kind = .boolean) (other : operands ≠ .boolean) :
      Refuses operator operands (.nonBooleanOperand operator operands)

theorem Operator.infer_eq_error_iff {operator : Operator} {operands : Ty} {error : TypeError} :
    operator.infer operands = .error error ↔ operator.Refuses operands error := by
  constructor
  · intro inferred
    unfold infer at inferred
    split at inferred <;> split at inferred <;> cases inferred
    · next kind notNumeric => exact .notNumeric (.inl kind) (mt Ty.isNumeric_iff.mpr notNumeric)
    · next kind notNumeric => exact .notNumeric (.inr kind) (mt Ty.isNumeric_iff.mpr notNumeric)
    · next kind notBoolean => exact .notBoolean kind notBoolean
  · intro refuses
    cases refuses with
    | notNumeric onNumbers other =>
      rw [← Ty.isNumeric_iff] at other
      rw [infer]
      rcases onNumbers with kind | kind <;> rw [kind] <;> exact if_neg other
    | notBoolean onTruthValues other =>
      rw [infer, onTruthValues]
      exact if_neg other

namespace Expr

/-- The rules that a node itself violates, given the types of its children.  A node with a child that
has no type violates none. -/
inductive Violates (context : Context) : Expr → TypeError → Prop
  | unbound {name : String} (free : context.type? name = none) :
      Violates context (atom (.variable name)) (.unboundVariable name)
  | bounds {lowerIncluded upperIncluded : Bool} {lower upper : Expr} {lowerType upperType : Ty}
      (isLower : lower.infer context = .ok lowerType)
      (isUpper : upper.infer context = .ok upperType) (differ : lowerType ≠ upperType) :
      Violates context (range lowerIncluded lower upper upperIncluded)
        (.rangeBoundMismatch lowerType upperType)
  | unordered {lowerIncluded upperIncluded : Bool} {lower upper : Expr} {ty : Ty}
      (isLower : lower.infer context = .ok ty) (isUpper : upper.infer context = .ok ty)
      (other : ty ∉ [Ty.integer, .long, .double, .date]) :
      Violates context (range lowerIncluded lower upper upperIncluded) (.unsupportedRangeType ty)
  | operator {operator : Operator} {operand : Expr} (notComparison : operator.kind ≠ .comparison) :
      Violates context (unary operator operand) (.unsupportedUnaryOperator operator)
  | operand {operator : Operator} {operand : Expr} {ty : Ty} {error : TypeError}
      (isComparison : operator.kind = .comparison) (typed : operand.infer context = .ok ty)
      (refuses : operator.Refuses ty error) : Violates context (unary operator operand) error
  | operands {operator : Operator} {left right : Expr} {leftType rightType : Ty}
      (isLeft : left.infer context = .ok leftType) (isRight : right.infer context = .ok rightType)
      (differ : leftType ≠ rightType) :
      Violates context (binary left operator right) (.operandMismatch leftType rightType)
  | operation {operator : Operator} {left right : Expr} {ty : Ty} {error : TypeError}
      (isLeft : left.infer context = .ok ty) (isRight : right.infer context = .ok ty)
      (refuses : operator.Refuses ty error) : Violates context (binary left operator right) error
  | alternatives {head tail : Expr} {headType tailType : Ty}
      (isHead : head.infer context = .ok headType) (isTail : tail.infer context = .ok tailType)
      (differ : headType ≠ tailType) :
      Violates context (disjunction head tail) (.disjunctionMismatch headType tailType)

/-- Whether the operator of a node is refused whatever its operand is. -/
def hasRefusedOperator : Expr → Bool
  | unary operator _ => !operator.isComparison
  | _ => false

/-! ## The order of the nodes -/

/-- A node of a tree and its place, which is given by the numbers of the children on the way from the
root to the node. -/
structure Visit where
  place : List Nat
  node : Expr
deriving DecidableEq

/-- A visit of a node in the child with a number. -/
def Visit.below (number : Nat) (visit : Visit) : Visit := ⟨number :: visit.place, visit.node⟩

/-- The nodes of a tree in the order in which inference visits them. -/
def visits : Expr → List Visit
  | empty => [⟨[], empty⟩]
  | atom value => [⟨[], atom value⟩]
  | range lowerIncluded lower upper upperIncluded =>
    lower.visits.map (.below 0) ++ upper.visits.map (.below 1) ++
      [⟨[], range lowerIncluded lower upper upperIncluded⟩]
  | unary operator operand =>
    if operator.isComparison then operand.visits.map (.below 0) ++ [⟨[], unary operator operand⟩]
    else ⟨[], unary operator operand⟩ :: operand.visits.map (.below 0)
  | binary left operator right =>
    left.visits.map (.below 0) ++ right.visits.map (.below 1) ++ [⟨[], binary left operator right⟩]
  | disjunction head tail =>
    head.visits.map (.below 0) ++ tail.visits.map (.below 1) ++ [⟨[], disjunction head tail⟩]

/-- The nodes of some children, the first of which has the given number. -/
def visitsBelow : Nat → List Expr → List Visit
  | _, [] => []
  | number, e :: es => e.visits.map (.below number) ++ visitsBelow (number + 1) es

theorem visits_eq (e : Expr) :
    e.visits =
      if e.hasRefusedOperator then ⟨[], e⟩ :: visitsBelow 0 e.children
      else visitsBelow 0 e.children ++ [⟨[], e⟩] := by
  cases e with
  | unary operator operand =>
    cases isComparison : operator.isComparison <;>
      simp [visits, visitsBelow, children, hasRefusedOperator, isComparison]
  | _ => simp [visits, visitsBelow, children, hasRefusedOperator]

/-! ## The first violation -/

def Visit.Passes (context : Context) (visit : Visit) : Prop :=
  ∀ error, ¬ visit.node.Violates context error

/-- The first of some nodes that violates a rule: its place and its error. -/
def FirstViolation (context : Context) (visits : List Visit) (place : List Nat)
    (error : TypeError) : Prop :=
  FirstSuch (Visit.Passes context)
    (fun visit => visit.place = place ∧ visit.node.Violates context error) visits

def Quiet (context : Context) (e : Expr) : Prop := ∀ visit ∈ e.visits, visit.Passes context

section FirstViolation

variable {context : Context} {e : Expr} {es : List Expr} {visits : List Visit} {place : List Nat}
  {error : TypeError}

theorem firstViolation_cons_iff {visit : Visit} :
    FirstViolation context (visit :: visits) place error ↔
      visit.place = place ∧ visit.node.Violates context error ∨
        visit.Passes context ∧ FirstViolation context visits place error :=
  firstSuch_cons_iff

theorem firstViolation_append_iff {others : List Visit} :
    FirstViolation context (visits ++ others) place error ↔
      FirstViolation context visits place error ∨
        (∀ visit ∈ visits, visit.Passes context) ∧ FirstViolation context others place error :=
  firstSuch_append_iff

theorem firstViolation_below_iff {number : Nat} :
    FirstViolation context (visits.map (.below number)) place error ↔
      ∃ rest, place = number :: rest ∧ FirstViolation context visits rest error := by
  rw [FirstViolation, firstSuch_map_iff]
  constructor
  · rintro ⟨before, visit, after, split, passes, rfl, violates⟩
    exact ⟨visit.place, rfl, before, visit, after, split, passes, rfl, violates⟩
  · rintro ⟨rest, rfl, before, visit, after, split, passes, rfl, violates⟩
    exact ⟨before, visit, after, split, passes, rfl, violates⟩

theorem passes_visitsBelow_iff {number : Nat} :
    (∀ visit ∈ visitsBelow number es, visit.Passes context) ↔ ∀ e ∈ es, e.Quiet context := by
  induction es generalizing number with
  | nil => simp [visitsBelow]
  | cons e es ih =>
    rw [visitsBelow, List.forall_mem_append, List.forall_mem_cons, ih, List.forall_mem_map]
    rfl

/-- The first violation in some children is the first one of one of them, and there is none in the
children before. -/
theorem firstViolation_visitsBelow_iff {number : Nat} :
    FirstViolation context (visitsBelow number es) place error ↔
      ∃ before child after rest, es = before ++ child :: after ∧
        place = (number + before.length) :: rest ∧ (∀ e ∈ before, e.Quiet context) ∧
        FirstViolation context child.visits rest error := by
  induction es generalizing number with
  | nil => simp [visitsBelow, FirstViolation, not_firstSuch_nil]
  | cons e es ih =>
    rw [visitsBelow, firstViolation_append_iff, firstViolation_below_iff, ih, List.forall_mem_map]
    constructor
    · rintro (⟨rest, rfl, first⟩ | ⟨quiet, before, child, after, rest, rfl, rfl, quietBefore, first⟩)
      · exact ⟨[], e, es, rest, rfl, rfl, List.forall_mem_nil _, first⟩
      · refine ⟨e :: before, child, after, rest, rfl, ?_, List.forall_mem_cons.mpr ⟨quiet, quietBefore⟩,
          first⟩
        rw [List.length_cons]
        congr 1
        omega
    · rintro ⟨before, child, after, rest, same, rfl, quiet, first⟩
      cases before with
      | nil =>
        cases same
        exact .inl ⟨rest, rfl, first⟩
      | cons head before =>
        cases same
        rw [List.forall_mem_cons] at quiet
        refine .inr ⟨quiet.1, before, child, after, rest, rfl, ?_, quiet.2, first⟩
        rw [List.length_cons]
        congr 1
        omega

theorem exists_violates_of_refused (context : Context) (refused : e.hasRefusedOperator = true) :
    ∃ error, e.Violates context error := by
  cases e with
  | unary operator operand =>
    rw [hasRefusedOperator, Bool.not_eq_true', Operator.isComparison, decide_eq_false_iff_not]
      at refused
    exact ⟨_, .operator refused⟩
  | _ => cases refused

/-- The first violation in a tree is at the root, or it is the first one in a child.  The root comes
last, unless its operator is refused, and then there is nothing before it. -/
theorem firstViolation_visits_iff :
    FirstViolation context e.visits place error ↔
      (place = [] ∧ e.Violates context error ∧
        (e.hasRefusedOperator = false → ∀ child ∈ e.children, child.Quiet context)) ∨
      e.hasRefusedOperator = false ∧ FirstViolation context (visitsBelow 0 e.children) place error := by
  have alone : FirstViolation context [⟨[], e⟩] place error ↔
      place = [] ∧ e.Violates context error := by
    rw [firstViolation_cons_iff]
    simp [FirstViolation, not_firstSuch_nil, eq_comm]
  rw [visits_eq]
  cases refused : e.hasRefusedOperator with
  | true =>
    rcases exists_violates_of_refused context refused with ⟨other, violates⟩
    rw [if_pos rfl, firstViolation_cons_iff]
    constructor
    · rintro (⟨isRoot, violated⟩ | ⟨passes, _⟩)
      · exact .inl ⟨isRoot.symm, violated, fun impossible => by cases impossible⟩
      · exact absurd violates (passes other)
    · rintro (⟨isRoot, violated, _⟩ | ⟨impossible, _⟩)
      · exact .inl ⟨isRoot.symm, violated⟩
      · cases impossible
  | false =>
    rw [if_neg Bool.false_ne_true, firstViolation_append_iff, alone, passes_visitsBelow_iff]
    constructor
    · rintro (first | ⟨quiet, isRoot, violated⟩)
      · exact .inr ⟨rfl, first⟩
      · exact .inl ⟨isRoot, violated, fun _ => quiet⟩
    · rintro (⟨isRoot, violated, quiet⟩ | ⟨_, first⟩)
      · exact .inr ⟨quiet rfl, isRoot, violated⟩
      · exact .inl first

end FirstViolation

/-! ## Inference stops at the first violation -/

/-- Two parts that must have the same type and pass a check fail at the first of these steps that
fails. -/
theorem both_eq_error_iff {first second : Except TypeError Ty} {mismatch : Ty → Ty → TypeError}
    {check : Ty → Except TypeError Ty} {error : TypeError} :
    (do
      let firstType ← first
      let secondType ← second
      if firstType ≠ secondType then throw (mismatch firstType secondType)
      else check firstType) = .error error ↔
      first = .error error ∨ (∃ ty, first = .ok ty) ∧ second = .error error ∨
        ∃ ty other, first = .ok ty ∧ second = .ok other ∧
          (ty ≠ other ∧ mismatch ty other = error ∨ ty = other ∧ check ty = .error error) := by
  cases first with
  | error problem => simp [bind, Except.bind]
  | ok ty =>
    cases second with
    | error problem => simp [bind, Except.bind]
    | ok other =>
      by_cases same : ty = other
      · simp [bind, Except.bind, same]
      · simp [bind, Except.bind, same, throw, throwThe, MonadExceptOf.throw]

variable {context : Context} {e : Expr} {error : TypeError}

theorem violates_range_iff {lowerIncluded upperIncluded : Bool} {lower upper : Expr} :
    (range lowerIncluded lower upper upperIncluded).Violates context error ↔
      ∃ ty other, lower.infer context = .ok ty ∧ upper.infer context = .ok other ∧
        (ty ≠ other ∧ .rangeBoundMismatch ty other = error ∨
          ty = other ∧ (if !ty.isOrdered then throw (.unsupportedRangeType ty)
            else return ty : Except TypeError Ty) = .error error) := by
  constructor
  · intro violates
    cases violates with
    | bounds isLower isUpper differ => exact ⟨_, _, isLower, isUpper, .inl ⟨differ, rfl⟩⟩
    | @unordered _ _ _ _ ty isLower isUpper other =>
      rw [← Ty.isOrdered_iff, Bool.not_eq_true] at other
      refine ⟨ty, ty, isLower, isUpper, .inr ⟨rfl, ?_⟩⟩
      rw [other]
      rfl
  · rintro ⟨ty, other, isLower, isUpper, ⟨differ, rfl⟩ | ⟨rfl, checked⟩⟩
    · exact .bounds isLower isUpper differ
    · split at checked <;> cases checked
      next notOrdered =>
      rw [Bool.not_eq_true', ← Bool.not_eq_true] at notOrdered
      exact .unordered isLower isUpper (mt Ty.isOrdered_iff.mpr notOrdered)

theorem violates_unary_iff {operator : Operator} {operand : Expr} :
    (unary operator operand).Violates context error ↔
      operator.isComparison = false ∧ .unsupportedUnaryOperator operator = error ∨
        operator.isComparison = true ∧
          ∃ ty, operand.infer context = .ok ty ∧ operator.infer ty = .error error := by
  rw [Operator.isComparison, decide_eq_false_iff_not, decide_eq_true_eq]
  constructor
  · intro violates
    cases violates with
    | operator notComparison => exact .inl ⟨notComparison, rfl⟩
    | operand isComparison typed refuses =>
      exact .inr ⟨isComparison, _, typed, Operator.infer_eq_error_iff.mpr refuses⟩
  · rintro (⟨notComparison, rfl⟩ | ⟨isComparison, ty, typed, refused⟩)
    · exact .operator notComparison
    · exact .operand isComparison typed (Operator.infer_eq_error_iff.mp refused)

theorem violates_binary_iff {left right : Expr} {operator : Operator} :
    (binary left operator right).Violates context error ↔
      ∃ ty other, left.infer context = .ok ty ∧ right.infer context = .ok other ∧
        (ty ≠ other ∧ .operandMismatch ty other = error ∨
          ty = other ∧ operator.infer ty = .error error) := by
  constructor
  · intro violates
    cases violates with
    | operands isLeft isRight differ => exact ⟨_, _, isLeft, isRight, .inl ⟨differ, rfl⟩⟩
    | operation isLeft isRight refuses =>
      exact ⟨_, _, isLeft, isRight, .inr ⟨rfl, Operator.infer_eq_error_iff.mpr refuses⟩⟩
  · rintro ⟨ty, other, isLeft, isRight, ⟨differ, rfl⟩ | ⟨rfl, refused⟩⟩
    · exact .operands isLeft isRight differ
    · exact .operation isLeft isRight (Operator.infer_eq_error_iff.mp refused)

theorem violates_disjunction_iff {head tail : Expr} :
    (disjunction head tail).Violates context error ↔
      ∃ ty other, head.infer context = .ok ty ∧ tail.infer context = .ok other ∧
        (ty ≠ other ∧ .disjunctionMismatch ty other = error ∨
          ty = other ∧ (return ty : Except TypeError Ty) = .error error) := by
  constructor
  · intro violates
    cases violates with
    | alternatives isHead isTail differ => exact ⟨_, _, isHead, isTail, .inl ⟨differ, rfl⟩⟩
  · rintro ⟨ty, other, isHead, isTail, ⟨differ, rfl⟩ | ⟨rfl, impossible⟩⟩
    · exact .alternatives isHead isTail differ
    · cases impossible

/-- A tree has no type if its root violates a rule or some child has no type, and the error is the
one of the first such child. -/
theorem infer_eq_error_iff :
    e.infer context = .error error ↔
      e.Violates context error ∨ e.hasRefusedOperator = false ∧
        FirstSuch (fun child => ∃ ty, child.infer context = .ok ty)
          (fun child => child.infer context = .error error) e.children := by
  cases e with
  | empty =>
    simp only [infer, children, not_firstSuch_nil, and_false, or_false, reduceCtorEq, false_iff]
    exact fun violates => by cases violates
  | atom value =>
    simp only [infer, children, not_firstSuch_nil, and_false, or_false]
    constructor
    · intro inferred
      cases value with
      | «variable» name =>
        rw [Atom.infer] at inferred
        split at inferred <;> cases inferred
        exact .unbound ‹_›
      | _ => cases inferred
    · intro violates
      cases violates with
      | unbound free => rw [Atom.infer, free]
  | range =>
    rw [infer, both_eq_error_iff, violates_range_iff, ← or_assoc, or_comm]
    simp only [children, hasRefusedOperator, firstSuch_cons_iff, not_firstSuch_nil, and_false,
      or_false, true_and]
  | binary =>
    rw [infer, both_eq_error_iff, violates_binary_iff, ← or_assoc, or_comm]
    simp only [children, hasRefusedOperator, firstSuch_cons_iff, not_firstSuch_nil, and_false,
      or_false, true_and]
  | disjunction =>
    rw [infer, both_eq_error_iff, violates_disjunction_iff, ← or_assoc, or_comm]
    simp only [children, hasRefusedOperator, firstSuch_cons_iff, not_firstSuch_nil, and_false,
      or_false, true_and]
  | unary operator operand =>
    rw [violates_unary_iff, infer]
    -- An operator that is no comparison is refused before its operand is looked at.
    cases isComparison : operator.isComparison with
    | false => simp [hasRefusedOperator, isComparison, throw, throwThe, MonadExceptOf.throw]
    | true =>
      simp only [hasRefusedOperator, isComparison, children, firstSuch_cons_iff, not_firstSuch_nil,
        and_false, or_false, true_and, Bool.not_true, Bool.false_eq_true, if_false]
      cases operand.infer context with
      | error problem => simp [bind, Except.bind]
      | ok ty => simp [bind, Except.bind]

/-- A node that violates a rule has children with types, unless its operator is refused. -/
theorem Violates.typed_children (violates : e.Violates context error)
    (notRefused : e.hasRefusedOperator = false) :
    ∀ child ∈ e.children, ∃ ty, child.infer context = .ok ty := by
  cases violates with
  | unbound => exact List.forall_mem_nil _
  | bounds isFirst isSecond | unordered isFirst isSecond | operands isFirst isSecond
  | operation isFirst isSecond | alternatives isFirst isSecond =>
    simp [children, isFirst, isSecond]
  | operator notComparison =>
    rw [hasRefusedOperator, Bool.not_eq_false', Operator.isComparison, decide_eq_true_eq]
      at notRefused
    exact absurd notRefused notComparison
  | operand _ typed _ => simp [children, typed]

/-- The first child that has a violation comes after children that have none. -/
theorem exists_firstViolation_visitsBelow_iff (number : Nat) {es : List Expr} :
    (∃ place, FirstViolation context (visitsBelow number es) place error) ↔
      FirstSuch (Quiet context)
        (fun child => ∃ place, FirstViolation context child.visits place error) es := by
  simp only [firstViolation_visitsBelow_iff]
  constructor
  · rintro ⟨_, before, child, after, rest, split, rfl, quiet, first⟩
    exact ⟨before, child, after, split, quiet, rest, first⟩
  · rintro ⟨before, child, after, split, quiet, rest, first⟩
    exact ⟨_, before, child, after, rest, split, rfl, quiet, first⟩

theorem quiet_iff :
    e.Quiet context ↔ ∀ error, ¬ ∃ place, FirstViolation context e.visits place error := by
  constructor
  · rintro quiet error ⟨place, first⟩
    rcases FirstSuch.exists_mem first with ⟨visit, member, _, violates⟩
    exact quiet visit member error violates
  · intro none
    rcases forall_or_firstSuch (Visit.Passes context) e.visits with quiet | first
    · exact quiet
    · rcases first with ⟨before, visit, after, split, passes, stops⟩
      rw [Visit.Passes, Classical.not_forall_not] at stops
      rcases stops with ⟨error, violates⟩
      exact absurd ⟨visit.place, before, visit, after, split, passes, rfl, violates⟩ (none error)

theorem exists_infer_eq_ok_iff :
    (∃ ty, e.infer context = .ok ty) ↔ ∀ error, ¬ e.infer context = .error error := by
  cases e.infer context <;> simp

/-- The error of a tree is the one of the first node that violates a rule. -/
theorem infer_eq_error_iff_exists_firstViolation :
    e.infer context = .error error ↔ ∃ place, FirstViolation context e.visits place error := by
  induction e using induction_children generalizing error with
  | step e ih =>
    have typed_iff : ∀ child ∈ e.children,
        ((∃ ty, child.infer context = .ok ty) ↔ child.Quiet context) := by
      intro child isChild
      rw [exists_infer_eq_ok_iff, quiet_iff]
      exact forall_congr' fun error => not_congr (ih child isChild)
    rw [infer_eq_error_iff, firstSuch_congr typed_iff fun child isChild => ih child isChild,
      ← exists_firstViolation_visitsBelow_iff 0]
    simp only [firstViolation_visits_iff]
    constructor
    · rintro (violates | ⟨notRefused, place, first⟩)
      · refine ⟨[], .inl ⟨rfl, violates, fun notRefused child isChild => ?_⟩⟩
        exact (typed_iff child isChild).mp (violates.typed_children notRefused child isChild)
      · exact ⟨place, .inr ⟨notRefused, first⟩⟩
    · rintro ⟨place, ⟨_, violates, _⟩ | ⟨notRefused, first⟩⟩
      · exact .inl violates
      · exact .inr ⟨notRefused, place, first⟩

/-! ## What comes later -/

/-- Two trees whose roots differ in nothing but the children. -/
inductive SameRoot : Expr → Expr → Prop
  | range {lowerIncluded upperIncluded : Bool} (lower lower' upper upper' : Expr) :
      SameRoot (range lowerIncluded lower upper upperIncluded)
        (range lowerIncluded lower' upper' upperIncluded)
  | unary {operator : Operator} (operand operand' : Expr) :
      SameRoot (unary operator operand) (unary operator operand')
  | binary {operator : Operator} (left left' right right' : Expr) :
      SameRoot (binary left operator right) (binary left' operator right')
  | disjunction (head head' tail tail' : Expr) :
      SameRoot (disjunction head tail) (disjunction head' tail')

/-- Two trees that are the same as far as they are visited up to the node at a place.  To the right
of the way to this node they may differ in any way, and so they may in the operand of the node if
its operator is refused. -/
inductive SameUpTo : List Nat → Expr → Expr → Prop
  | here (e : Expr) : SameUpTo [] e e
  | operand {operator : Operator} (notComparison : operator.kind ≠ .comparison)
      (operand operand' : Expr) : SameUpTo [] (unary operator operand) (unary operator operand')
  | inChild {e e' child child' : Expr} (before : List Expr) {after after' : List Expr}
      {place : List Nat} (root : SameRoot e e') (children : e.children = before ++ child :: after)
      (children' : e'.children = before ++ child' :: after') (same : SameUpTo place child child') :
      SameUpTo (before.length :: place) e e'

theorem SameRoot.hasRefusedOperator_eq {e e' : Expr} (root : SameRoot e e') :
    e.hasRefusedOperator = e'.hasRefusedOperator := by
  cases root <;> rfl

/-- The first violation stays the first one when something is exchanged that is visited later. -/
theorem SameUpTo.firstViolation {e' : Expr} {place : List Nat} (same : SameUpTo place e e')
    (first : FirstViolation context e.visits place error) :
    FirstViolation context e'.visits place error := by
  induction same with
  | here => exact first
  | @operand operator notComparison operand operand' =>
    have refused : ∀ operand, (unary operator operand).hasRefusedOperator = true := by
      intro operand
      rw [hasRefusedOperator, Operator.isComparison, decide_eq_false notComparison, Bool.not_false]
    rw [firstViolation_visits_iff, refused] at first ⊢
    rcases first with ⟨isRoot, violates, _⟩ | ⟨impossible, _⟩
    · refine .inl ⟨isRoot, ?_, fun impossible => by cases impossible⟩
      cases violates with
      | operator => exact .operator notComparison
      | operand isComparison => exact absurd isComparison notComparison
    · cases impossible
  | @inChild e e' child child' before after after' place root isChild isChild' _ ih =>
    rw [firstViolation_visits_iff, firstViolation_visitsBelow_iff] at first ⊢
    rcases first with ⟨impossible, _⟩ | ⟨notRefused, before', _, _, _, split, isPlace, quiet, first⟩
    · cases impossible
    · -- The place has the number of the child, so that this child is the one that is exchanged.
      rw [Nat.zero_add, List.cons.injEq] at isPlace
      rcases isPlace with ⟨sameLength, rfl⟩
      rw [isChild] at split
      rcases List.append_inj split sameLength with ⟨rfl, sameRest⟩
      cases sameRest
      rw [root.hasRefusedOperator_eq] at notRefused
      refine .inr ⟨notRefused, before, child', after', place, isChild', ?_, quiet, ih first⟩
      rw [Nat.zero_add]

/-- **The first type error.**  A tree has an error exactly if some node violates a rule, and it is
the error of the first such node in the order of `visits`.  It stays the error of the tree whatever
is put in place of what would be visited later. -/
theorem infer_eq_error_iff_firstViolation (context : Context) (e : Expr) (error : TypeError) :
    (e.infer context = .error error ↔ ∃ place, FirstViolation context e.visits place error) ∧
      ∀ place e', FirstViolation context e.visits place error → SameUpTo place e e' →
        e'.infer context = .error error := by
  refine ⟨infer_eq_error_iff_exists_firstViolation, fun place e' first same => ?_⟩
  rw [infer_eq_error_iff_exists_firstViolation]
  exact ⟨place, same.firstViolation first⟩

/-- In `1 + x, "a"` the variable is found to have no type before the alternatives are compared, and
before it is known what the second one is. -/
theorem infer_eq_error_unbound_alternative :
    FirstViolation .empty
      (disjunction (binary (atom (.integer 1)) .add (atom (.variable "x")))
        (atom (.string "a"))).visits [0, 1] (.unboundVariable "x") ∧
    (disjunction (binary (atom (.integer 1)) .add (atom (.variable "x")))
      (atom (.string "a"))).infer .empty = .error (.unboundVariable "x") ∧
    (disjunction (binary (atom (.integer 1)) .add (atom (.variable "x")))
      (unary .not empty)).infer .empty = .error (.unboundVariable "x") := by
  have first : FirstViolation .empty
      (disjunction (binary (atom (.integer 1)) .add (atom (.variable "x")))
        (atom (.string "a"))).visits [0, 1] (.unboundVariable "x") := by
    refine ⟨[⟨[0, 0], atom (.integer 1)⟩], ⟨[0, 1], atom (.variable "x")⟩, _, rfl, ?_, rfl,
      .unbound rfl⟩
    rw [List.forall_mem_singleton]
    intro error violates
    cases violates
  have same : SameUpTo [0, 1]
      (disjunction (binary (atom (.integer 1)) .add (atom (.variable "x"))) (atom (.string "a")))
      (disjunction (binary (atom (.integer 1)) .add (atom (.variable "x"))) (unary .not empty)) := by
    apply SameUpTo.inChild [] (.disjunction ..) rfl rfl
    exact .inChild [atom (.integer 1)] (.binary ..) rfl rfl (.here _)
  have settled := infer_eq_error_iff_firstViolation .empty
    (disjunction (binary (atom (.integer 1)) .add (atom (.variable "x"))) (atom (.string "a")))
    (.unboundVariable "x")
  exact ⟨first, settled.1.mpr ⟨_, first⟩, settled.2 _ _ first same⟩

end Expr
end CellCheck
