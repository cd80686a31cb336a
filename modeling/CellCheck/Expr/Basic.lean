import CellCheck.DateTime
import CellCheck.Expr.Operator
import CellCheck.Number.Double

/-!
# Expressions

The tree of a cell.  Its leaves are the empty expression, which stands for a cell without a
condition, and the atoms, which are literals and variables.  The type holds more trees than cells
can denote: the parser never puts the empty expression below the root, for instance, but the
operations on trees are defined for all of them.
-/

namespace CellCheck

/-- A single literal or variable. -/
inductive Atom where
  | boolean (value : Bool)
  | date (value : DateTime)
  | double (value : Double)
  | integer (value : Int64)
  | string (value : String)
  | variable (name : String)
deriving DecidableEq

namespace Atom

/-- Whether two atoms are literals of one kind, or both variables. -/
def sameKind : Atom → Atom → Bool
  | .boolean _, .boolean _ | .date _, .date _ | .double _, .double _ | .integer _, .integer _
  | .string _, .string _ | .variable _, .variable _ => true
  | _, _ => false

/-- Equality of atoms.  Doubles are compared by value: the two zeros are equal, and a value that is
not a number is not even equal to itself. -/
def same : Atom → Atom → Bool
  | .boolean x, .boolean y => x = y
  | .date x, .date y => x = y
  | .double x, .double y => x.same y
  | .integer x, .integer y => x = y
  | .string x, .string y => x = y
  | .variable x, .variable y => x = y
  | _, _ => false

end Atom

/-- The expression of a cell. -/
inductive Expr where
  | empty
  | atom (value : Atom)
  /-- An interval, which contains each of its two bounds or not. -/
  | range (lowerIncluded : Bool) (lower upper : Expr) (upperIncluded : Bool)
  | unary (operator : Operator) (operand : Expr)
  | binary (left : Expr) (operator : Operator) (right : Expr)
  /-- Alternatives, which nest to the right. -/
  | disjunction (head tail : Expr)
deriving DecidableEq

namespace Expr

def isAtom : Expr → Bool
  | atom _ => true
  | _ => false

/-- Equality of trees, with doubles compared by value. -/
def same : Expr → Expr → Bool
  | empty, empty => true
  | atom x, atom y => x.same y
  | range a l u b, range a' l' u' b' => a = a' && l.same l' && u.same u' && b = b'
  | unary op e, unary op' e' => op = op' && e.same e'
  | binary l op r, binary l' op' r' => l.same l' && op = op' && r.same r'
  | disjunction h t, disjunction h' t' => h.same h' && t.same t'
  | _, _ => false

/-- Equality of trees in which two doubles are also equal when they are at most `tolerance` apart.
Only two doubles at the root are compared in this way; below the root nothing is tolerated. -/
def within (tolerance : Double) : Expr → Expr → Bool
  | atom (.double x), atom (.double y) => Double.within tolerance x y
  | x, y => x.same y

/-- The disjunction of alternatives, starting with the given one. -/
def disjunctionFrom (first : Expr) : List Expr → Expr
  | [] => first
  | next :: rest => disjunction first (disjunctionFrom next rest)

/-- The disjunction of a list of alternatives, which must not be empty. -/
def disjunctionOf? : List Expr → Option Expr
  | [] => none
  | first :: rest => some (disjunctionFrom first rest)

end Expr
end CellCheck
