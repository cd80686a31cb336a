import CellCheck.Expr.Basic

/-!
# Trees and lists of alternatives

A disjunction nests to the right, so that it stands for the list of its alternatives, and any other
tree for itself alone.  Putting the list together gives the tree back.
-/

namespace CellCheck
namespace Expr

/-- The alternatives of a tree, which is a single one if it is no disjunction. -/
def alternatives : Expr → List Expr
  | disjunction head tail => head :: tail.alternatives
  | e => [e]

theorem disjunctionOf?_cons {first joined : Expr} {rest : List Expr}
    (others : disjunctionOf? rest = some joined) :
    disjunctionOf? (first :: rest) = some (disjunction first joined) := by
  cases rest with
  | nil => cases others
  | cons next rest =>
    cases others
    rfl

theorem disjunctionOf?_alternatives (e : Expr) : disjunctionOf? e.alternatives = some e := by
  induction e with
  | disjunction head tail _ ih => exact disjunctionOf?_cons ih
  | _ => rfl

/-- The alternatives of two trees make up a tree. -/
theorem exists_disjunctionOf?_append (a b : Expr) :
    ∃ e, disjunctionOf? (a.alternatives ++ b.alternatives) = some e := by
  induction a with
  | disjunction head tail _ ih =>
    rcases ih with ⟨joined, others⟩
    exact ⟨_, disjunctionOf?_cons others⟩
  | _ => exact ⟨_, disjunctionOf?_cons b.disjunctionOf?_alternatives⟩

theorem alternatives_of_ne_disjunction {e : Expr} (single : ∀ head tail, e ≠ disjunction head tail) :
    e.alternatives = [e] := by
  cases e with
  | disjunction head tail => exact absurd rfl (single head tail)
  | _ => rfl

end Expr
end CellCheck
