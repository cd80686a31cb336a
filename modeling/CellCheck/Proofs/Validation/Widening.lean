import CellCheck.Proofs.Typing.Substitution
import CellCheck.Proofs.Validation.Members
import Mathlib.Logic.Relation

/-!
# Wider columns

Some declared types ask for less than others.  An enumeration asks for certain strings, the type of
strings for any of them, and a type asks for less than its subtypes do.  What passes in a column
should pass if the column asks for less, and it does as long as the cell mentions no variable.

The declared type of an input column has a part in two questions.  It is the type that the cell must
have, and it is the type that the variable of the column has within the cell.  A cell without
variables has the same type in every column, so that only the first question remains, and this one
is settled by the order of types.  With a variable the second one may go wrong: `x + 1` has a type
in a column of integers and none in a column of doubles.
-/

namespace CellCheck

theorem Ty.isSubtype_trans {first second third : Ty} (below : first.isSubtype second = true)
    (above : second.isSubtype third = true) : first.isSubtype third = true := by
  cases second <;> cases third <;> cases above <;> cases first <;> first | rfl | cases below

/-! ## The order of declared types -/

namespace DeclaredType

/-- The single steps by which a declared type comes to ask for less. -/
inductive WidensTo : DeclaredType → DeclaredType → Prop
  | enumeration (name : String) : WidensTo (.ofEnumeration name) (.ofBase .string)
  | base {sub super : Ty} (isSubtype : sub.isSubtype super = true) :
      WidensTo (.ofBase sub) (.ofBase super)

/-- Whether a declared type asks for as much as another one or more. -/
def Below : DeclaredType → DeclaredType → Prop := Relation.ReflTransGen WidensTo

end DeclaredType

/-! ## Cells in a wider column -/

namespace EntryPolicy

variable {policy : EntryPolicy} {lookup : EnumLookup} {declared wider : DeclaredType} {e : Expr}
  {ty : Ty}

theorem judgeType_of_isSubtype {base super : Ty} (isSubtype : base.isSubtype super = true)
    (passes : policy.judgeType base ty = none) : policy.judgeType super ty = none := by
  unfold judgeType at *
  split at passes
  · next isTop => rw [if_pos isTop, passes]
  · next notTop =>
    split at passes
    · next fits => rw [if_neg notTop, if_pos (Ty.isSubtype_trans fits isSubtype)]
    · cases passes

theorem judge_of_widensTo (widens : declared.WidensTo wider)
    (passes : policy.judge lookup declared e ty = none) :
    policy.judge lookup wider e ty = none := by
  cases widens with
  | base isSubtype => exact judgeType_of_isSubtype isSubtype passes
  | enumeration name =>
    simp only [judge, DeclaredType.ofEnumeration] at passes
    split at passes
    · next isString =>
      obtain rfl := Ty.isSubtype_string_iff.mp isString
      rfl
    · exact passes

/-- What passes still does where less is asked for. -/
theorem judge_of_below (below : declared.Below wider)
    (passes : policy.judge lookup declared e ty = none) :
    policy.judge lookup wider e ty = none := by
  induction below with
  | refl => exact passes
  | tail _ widens ih => exact judge_of_widensTo widens ih

/-- A cell without variables that passes still does where less is asked for, in any context. -/
theorem problem?_of_below {context : Context} {text : String} (parsed : Cell.parse text = .ok e)
    (noVariables : ∀ name, .atom (.variable name) ∉ e.subtrees) (below : declared.Below wider)
    (passes : policy.problem? lookup context declared text = none) (other : Context) :
    policy.problem? lookup other wider text = none := by
  rcases exists_typed_of_problem?_eq_none passes with ⟨e', ty, parsed', typed, judged⟩
  obtain rfl := Except.ok.inj (parsed.symm.trans parsed')
  have sameType : e.infer other = e.infer context :=
    Expr.infer_congr fun name mentioned => absurd mentioned (noVariables name)
  rw [problem?_eq_judge parsed (sameType.trans typed)]
  exact judge_of_below below judged

/-- **A cell without variables that passes in a column passes in every wider one.**  This holds of
input columns, in which the variable has the declared type, and of output columns, whether or not
empty cells are allowed there. -/
theorem problem?_of_wider {text : String} (parsed : Cell.parse text = .ok e)
    (noVariables : ∀ name, .atom (.variable name) ∉ e.subtrees) (below : declared.Below wider)
    (lookup : EnumLookup) :
    (∀ variableName,
      input.problem? lookup (.single variableName declared.base) declared text = none →
        input.problem? lookup (.single variableName wider.base) wider text = none) ∧
      ∀ emptyAllowed, (output emptyAllowed).problem? lookup .empty declared text = none →
        (output emptyAllowed).problem? lookup .empty wider text = none := by
  constructor
  · intro variableName passes
    exact problem?_of_below parsed noVariables below passes _
  · intro emptyAllowed passes
    exact problem?_of_below parsed noVariables below passes _

/-- A cell that passes because `Stew` is a member of an enumeration passes in a column without a
type, and as an output cell also where empty cells are not allowed. -/
theorem problem?_of_wider_stew :
    let stew : Expr := .atom (.string "Stew")
    let lookup : EnumLookup := fun name => if name = "Dish" then some ["Stew"] else none
    let dish : DeclaredType := .ofEnumeration "Dish"
    let anything : DeclaredType := .ofBase .top
    (Cell.parse "\"Stew\"" = .ok stew ∧ (∀ name, .atom (.variable name) ∉ stew.subtrees) ∧
        dish.Below anything) ∧
      (input.problem? lookup (.single "x" .string) dish "\"Stew\"" = none ∧
        input.problem? lookup (.single "x" .top) anything "\"Stew\"" = none) ∧
      (output false).problem? lookup .empty dish "\"Stew\"" = none ∧
        (output false).problem? lookup .empty anything "\"Stew\"" = none := by
  intro stew lookup dish anything
  have parsed : Cell.parse "\"Stew\"" = .ok stew :=
    Grammar.parse_string (by decide) (by decide +kernel)
  have noVariables : ∀ name, .atom (.variable name) ∉ stew.subtrees := by
    intro name mentioned
    cases List.mem_singleton.mp mentioned
  have below : dish.Below anything :=
    .tail (.single (.enumeration "Dish")) (.base rfl)
  have typed : ∀ context, stew.infer context = .ok .string := fun _ => rfl
  have isMember : judgeMembers lookup "Dish" stew = none := by decide
  have inputPasses : input.problem? lookup (.single "x" .string) dish "\"Stew\"" = none := by
    rw [problem?_eq_judge parsed (typed _)]
    exact isMember
  have outputPasses : (output false).problem? lookup .empty dish "\"Stew\"" = none := by
    rw [problem?_eq_judge parsed (typed _)]
    exact isMember
  rcases problem?_of_wider parsed noVariables below lookup with ⟨inputWider, outputWider⟩
  exact ⟨⟨parsed, noVariables, below⟩, ⟨inputPasses, inputWider "x" inputPasses⟩, outputPasses,
    outputWider false outputPasses⟩

/-- With a variable it may be otherwise: `x + 1` has a type while `x` is an integer only. -/
example :
    let sum : Expr := .binary (.atom (.variable "x")) .add (.atom (.integer 1))
    sum.infer (.single "x" .integer) = .ok .integer ∧
      sum.infer (.single "x" .double) = .error (.operandMismatch .double .integer) :=
  ⟨rfl, rfl⟩

end EntryPolicy
end CellCheck
