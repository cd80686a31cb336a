import CellCheck.Expr.Basic
import CellCheck.Typing.Ty

/-!
# The type of an expression

A context gives types to the variables that a cell may mention.  It is a list of pairs, in which a
later pair replaces an earlier one with the same name.

Types are inferred from the leaves up.  There are no conversions inside an expression: the two
sides of an operation, of a range and of a disjunction must have the same type, and an integer
next to a long is an error.

Of several errors the first in evaluation order is reported.  Children come before the node
itself, from left to right; only the operator in front of an operand is examined before the operand.
-/

namespace CellCheck

/-! ## Contexts -/

structure Context where
  bindings : List (String × Ty)
deriving DecidableEq, Repr

namespace Context

def empty : Context := ⟨[]⟩

/-- The context of one variable. -/
def single (name : String) (ty : Ty) : Context := ⟨[(name, ty)]⟩

/-- The type of a variable, if it has one. -/
def type? (context : Context) (name : String) : Option Ty :=
  (context.bindings.reverse.find? fun binding => binding.1 = name).map Prod.snd

def size (context : Context) : Nat := (context.bindings.map Prod.fst).eraseDups.length

def isEmpty (context : Context) : Bool := context.bindings.isEmpty

end Context

/-! ## Inference -/

/-- Why an expression has no type. -/
inductive TypeError where
  | unboundVariable (name : String)
  | rangeBoundMismatch (lower upper : Ty)
  | unsupportedRangeType (found : Ty)
  | unsupportedUnaryOperator (operator : Operator)
  | operandMismatch (left right : Ty)
  | disjunctionMismatch (head tail : Ty)
  | nonNumericOperand (operator : Operator) (found : Ty)
  | nonBooleanOperand (operator : Operator) (found : Ty)
deriving DecidableEq, Repr

def TypeError.message : TypeError → String
  | unboundVariable name => "Variable '" ++ name ++ "' has no type."
  | rangeBoundMismatch _ _ => "Types of lower and upper bound do not match."
  | unsupportedRangeType _ => "Type is unsupported for RangeExpressions."
  | unsupportedUnaryOperator _ => "Operator is not supported in UnaryExpression."
  | operandMismatch _ _ => "Types of left and right operand do not match."
  | disjunctionMismatch _ _ => "Types of head and tail do not match."
  | nonNumericOperand operator found =>
    "Operator '" ++ operator.symbol ++ "' expects a numeric operand, found " ++ found.print ++ "."
  | nonBooleanOperand operator found =>
    "Operator '" ++ operator.symbol ++ "' expects a boolean operand, found " ++ found.print ++ "."

/-- The type of a literal, or of a variable that the context knows. -/
def Atom.infer (context : Context) : Atom → Except TypeError Ty
  | .boolean _ => .ok .boolean
  | .date _ => .ok .date
  | .double _ => .ok .double
  | .integer _ => .ok .integer
  | .string _ => .ok .string
  | .variable name =>
    match context.type? name with
    | some ty => .ok ty
    | none => .error (.unboundVariable name)

/-- The type of an operation on operands of one type, which is that type. -/
def Operator.infer (operator : Operator) (operands : Ty) : Except TypeError Ty :=
  match operator.kind with
  | .comparison | .arithmetic =>
    if operands.isNumeric then .ok operands else .error (.nonNumericOperand operator operands)
  | .boolean =>
    if operands = .boolean then .ok operands else .error (.nonBooleanOperand operator operands)

namespace Expr

/-- The type of an expression in a context. -/
def infer (context : Context) : Expr → Except TypeError Ty
  | empty => .ok .top
  | atom value => value.infer context
  | range _ lower upper _ => do
    let lowerType ← lower.infer context
    let upperType ← upper.infer context
    if lowerType ≠ upperType then throw (.rangeBoundMismatch lowerType upperType)
    else if !lowerType.isOrdered then throw (.unsupportedRangeType lowerType)
    else return lowerType
  | unary operator operand =>
    if !operator.isComparison then throw (.unsupportedUnaryOperator operator)
    else do
      let operandType ← operand.infer context
      operator.infer operandType
  | binary left operator right => do
    let leftType ← left.infer context
    let rightType ← right.infer context
    if leftType ≠ rightType then throw (.operandMismatch leftType rightType)
    else operator.infer leftType
  | disjunction head tail => do
    let headType ← head.infer context
    let tailType ← tail.infer context
    if headType ≠ tailType then throw (.disjunctionMismatch headType tailType)
    else return headType

end Expr
end CellCheck
