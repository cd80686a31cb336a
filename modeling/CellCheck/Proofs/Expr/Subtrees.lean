import CellCheck.Expr.Basic

/-!
# Subtrees

Some properties of a tree are about everything that occurs in it, at whatever depth.
`Expr.subtrees` lists what occurs in a tree, from left to right and each subtree after its own
parts, which is the order in which types are inferred.  The statements here lead from a tree to its
children, so that an induction over trees needs no case for each form of a tree.
-/

namespace CellCheck
namespace Expr

def children : Expr → List Expr
  | empty | atom _ => []
  | range _ lower upper _ => [lower, upper]
  | unary _ operand => [operand]
  | binary left _ right => [left, right]
  | disjunction head tail => [head, tail]

/-- All trees that occur in a tree, with the tree itself at the end. -/
def subtrees : Expr → List Expr
  | empty => [empty]
  | atom value => [atom value]
  | range lowerIncluded lower upper upperIncluded =>
    lower.subtrees ++ upper.subtrees ++ [range lowerIncluded lower upper upperIncluded]
  | unary operator operand => operand.subtrees ++ [unary operator operand]
  | binary left operator right => left.subtrees ++ right.subtrees ++ [binary left operator right]
  | disjunction head tail => head.subtrees ++ tail.subtrees ++ [disjunction head tail]

/-- Induction over trees that goes from the children of a tree to the tree. -/
theorem induction_children {motive : Expr → Prop}
    (step : ∀ e, (∀ child ∈ e.children, motive child) → motive e) (e : Expr) : motive e := by
  induction e with
  | empty | atom => exact step _ (by simp [children])
  | unary _ _ ih => exact step _ (by simp [children, ih])
  | range _ _ _ _ first second | binary _ _ _ first second | disjunction _ _ first second =>
    exact step _ (by simp [children, first, second])

theorem subtrees_eq (e : Expr) : e.subtrees = e.children.flatMap subtrees ++ [e] := by
  cases e <;> simp [subtrees, children]

theorem self_mem_subtrees (e : Expr) : e ∈ e.subtrees := by
  rw [subtrees_eq]
  exact List.mem_append_right _ (List.mem_singleton_self e)

/-- What occurs in a tree is the tree itself or occurs in one of its children. -/
theorem mem_subtrees_iff {part whole : Expr} :
    part ∈ whole.subtrees ↔ (∃ child ∈ whole.children, part ∈ child.subtrees) ∨ part = whole := by
  rw [subtrees_eq, List.mem_append, List.mem_flatMap, List.mem_singleton]

theorem forall_mem_subtrees_iff {p : Expr → Prop} {e : Expr} :
    (∀ part ∈ e.subtrees, p part) ↔
      p e ∧ ∀ child ∈ e.children, ∀ part ∈ child.subtrees, p part := by
  constructor
  · intro everywhere
    refine ⟨everywhere e e.self_mem_subtrees, ?_⟩
    intro child isChild part member
    exact everywhere part (mem_subtrees_iff.mpr (.inl ⟨child, isChild, member⟩))
  · rintro ⟨atRoot, below⟩ part member
    rcases mem_subtrees_iff.mp member with ⟨child, isChild, member⟩ | rfl
    · exact below child isChild part member
    · exact atRoot

end Expr
end CellCheck
