/-!
# Operators

The operators of a cell, their symbols, and the three kinds that the type rules tell apart.
-/

namespace CellCheck

inductive Operator where
  | gt | ge | lt | le
  | add | sub | mul | div | exp
  | and | or | not
deriving DecidableEq, Repr

namespace Operator

/-- What an operator works on: comparisons and arithmetic on numbers, the others on truth values. -/
inductive Kind where
  | comparison | arithmetic | boolean
deriving DecidableEq, Repr

def kind : Operator → Kind
  | gt | ge | lt | le => .comparison
  | add | sub | mul | div | exp => .arithmetic
  | and | or | not => .boolean

/-- Whether an operator may stand in front of an operand as a comparison. -/
def isComparison (op : Operator) : Bool := op.kind = .comparison

def symbol : Operator → String
  | gt => ">"
  | ge => ">="
  | lt => "<"
  | le => "<="
  | add => "+"
  | sub => "-"
  | mul => "*"
  | div => "/"
  | exp => "**"
  | and => "and"
  | or => "or"
  | not => "not"

def all : List Operator := [gt, ge, lt, le, add, sub, mul, div, exp, and, or, not]

def ofSymbol? (text : String) : Option Operator := all.find? fun op => op.symbol = text

end Operator
end CellCheck
