import CellCheck.Expr.Basic
import CellCheck.Number.Shortest

/-!
# The canonical text of an expression

Printing writes one text for each tree.  Parentheses appear in one place only, around an operand of
an infix operator that is itself an infix operation, so the text shows how a tree groups
even where the parser would have grouped it that way without them.
-/

namespace CellCheck

/-- A string in quotes.  A quote inside it is written with a backslash; a backslash is written as
it is. -/
def quoted (s : String) : List Char :=
  '"' :: (s.toList.flatMap fun c => if c = '"' then ['\\', '"'] else [c]) ++ ['"']

def Atom.toChars : Atom → List Char
  | .boolean value => (if value then "true" else "false").toList
  | .date value => "date and time(\"".toList ++ value.toChars ++ "\")".toList
  | .double value => value.toChars
  | .integer value => Integer.toChars value
  | .string value => quoted value
  | .variable name => name.toList

namespace Expr

def toChars : Expr → List Char
  | empty => []
  | atom value => value.toChars
  | range lowerIncluded lower upper upperIncluded =>
    (if lowerIncluded then '[' else '(') :: lower.toChars ++ "..".toList ++ upper.toChars ++
      [if upperIncluded then ']' else ')']
  | unary .not operand => "not(".toList ++ operand.toChars ++ [')']
  | unary operator operand => operator.symbol.toList ++ operand.toChars
  | binary left operator right =>
    operandChars left left.toChars ++ ' ' :: operator.symbol.toList ++
      ' ' :: operandChars right right.toChars
  | disjunction head tail => head.toChars ++ ", ".toList ++ tail.toChars
where
  /-- The text of an operand, in parentheses if the operand is an infix operation. -/
  operandChars : Expr → List Char → List Char
    | binary _ _ _, text => '(' :: text ++ [')']
    | _, text => text

def print (e : Expr) : String := String.ofList e.toChars

end Expr
end CellCheck
