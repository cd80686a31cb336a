import CellCheck.Cell
import CellCheck.Table.Basic
import CellCheck.Typing.Infer

/-!
# Checking one cell against its column

A cell passes if it parses, has a type, and that type fits the type that its column declares.  Two
kinds of cells are judged by other rules.  An empty cell fits every column where empty cells are
allowed.  A string cell of an enumeration column must consist of members of the enumeration.
-/

namespace CellCheck

/-- The side of the table that a cell stands on. -/
inductive Side where
  | input | output
deriving DecidableEq, Repr

/-- Why a cell does not pass. -/
inductive EntryProblem where
  | unparsable (error : ParseError)
  | illTyped (error : TypeError)
  | emptyNotAllowed
  | typeMismatch (side : Side)
  | unknownEnumeration (enumeration : String)
  | notMember (value enumeration : String)
deriving DecidableEq, Repr

def EntryProblem.message : EntryProblem → String
  | unparsable error => error.message
  | illTyped error => error.message
  | emptyNotAllowed => "Empty expression is not allowed."
  | typeMismatch .input => "Type of input entry does not match type of input expression"
  | typeMismatch .output => "Type of output entry does not match type of output expression"
  | unknownEnumeration enumeration => "Enumeration " ++ enumeration ++ " is not known."
  | notMember value enumeration =>
    "Value \"" ++ value ++ "\" does not belong to " ++ enumeration

/-- The strings among the alternatives of an expression, from left to right. -/
def Expr.alternativeStrings : Expr → List String
  | atom (.string value) => [value]
  | disjunction head tail => head.alternativeStrings ++ tail.alternativeStrings
  | _ => []

/-- The rules by which the cells on one side of a table are checked. -/
structure EntryPolicy where
  side : Side
  emptyAllowed : Bool
deriving DecidableEq, Repr

namespace EntryPolicy

/-- Input cells may always be empty. -/
def input : EntryPolicy := ⟨.input, true⟩

def output (emptyAllowed : Bool) : EntryPolicy := ⟨.output, emptyAllowed⟩

/-- The first string of an expression that is no member of an enumeration. -/
def judgeMembers (lookup : EnumLookup) (enumeration : String) (e : Expr) : Option EntryProblem :=
  match lookup enumeration with
  | none => some (.unknownEnumeration enumeration)
  | some members =>
    (e.alternativeStrings.find? fun value => !members.contains value).map fun value =>
      .notMember value enumeration

/-- What is wrong with a type in a column with the given base type. -/
def judgeType (policy : EntryPolicy) (base ty : Ty) : Option EntryProblem :=
  if ty = .top then
    if policy.emptyAllowed then none else some .emptyNotAllowed
  else if ty.isSubtype base then none
  else some (.typeMismatch policy.side)

/-- What is wrong with a well-typed cell. -/
def judge (policy : EntryPolicy) (lookup : EnumLookup) (declared : DeclaredType) (e : Expr)
    (ty : Ty) : Option EntryProblem :=
  match declared.enumeration with
  | some enumeration =>
    if ty.isSubtype .string then judgeMembers lookup enumeration e
    else policy.judgeType declared.base ty
  | none => policy.judgeType declared.base ty

/-- What is wrong with a cell, if anything is. -/
def problem? (policy : EntryPolicy) (lookup : EnumLookup) (context : Context)
    (declared : DeclaredType) (text : String) : Option EntryProblem :=
  match Cell.parse text with
  | .error error => some (.unparsable error)
  | .ok e =>
    match e.infer context with
    | .error error => some (.illTyped error)
    | .ok ty => policy.judge lookup declared e ty

end EntryPolicy
end CellCheck
