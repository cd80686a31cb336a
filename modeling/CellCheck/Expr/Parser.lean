import CellCheck.Expr.Basic
import CellCheck.Expr.ParseError
import CellCheck.Number.Decimal
import CellCheck.Text.Basic

/-!
# From tokens to expressions

A reader takes the tokens from some place on and gives a tree and the tokens after it, or a
failure.  Infix operators bind at four levels and group to the left; the power binds tighter than
all of them and groups to the right.  A comparison stands in front of its operand, and a whole
cell is a list of alternatives.

Two places need to look ahead.  An opening parenthesis starts a range if a bound and two dots follow
it, and an expression in parentheses otherwise.  The word `date` is a variable unless the words
`and time` and an opening parenthesis follow it.

Every reader leaves fewer tokens than it was given.  The type `Step` says so, and the recursion
ends for this reason: no bound on its depth is needed.
-/

namespace CellCheck
namespace Parser

/-- A result with the tokens that follow it, of which there are fewer than `ts`, or a failure. -/
abbrev Step (α : Type) (ts : List Token) : Type := Except ParseFailure (α × Fewer ts)

namespace Step

variable {α β : Type} {ts : List Token}

/-- Read on after a result. -/
def andThen (first : Step α ts) (second : α → (rest : Fewer ts) → Step β rest.val) : Step β ts :=
  match first with
  | .error failure => .error failure
  | .ok (a, rest) =>
    match second a rest with
    | .error failure => .error failure
    | .ok (b, last) => .ok (b, rest.trans last)

def map (f : α → β) (step : Step α ts) : Step β ts :=
  match step with
  | .error failure => .error failure
  | .ok (a, rest) => .ok (f a, rest)

/-- What follows a token also follows the tokens that start with it. -/
def after (t : Token) (step : Step α ts) : Step α (t :: ts) :=
  match step with
  | .error failure => .error failure
  | .ok (a, rest) => .ok (a, rest.cons t)

/-- The result without the evidence that tokens were used up. -/
def run (step : Step α ts) : Except ParseFailure (α × List Token) :=
  match step with
  | .error failure => .error failure
  | .ok (a, rest) => .ok (a, rest.val)

end Step

/-- Take the first of the tokens as it is. -/
def take {α : Type} (value : α) (t : Token) (rest : List Token) : Step α (t :: rest) :=
  .ok (value, Fewer.tail t rest)

/-- The tokens after a particular symbol, if the first token is this symbol. -/
def skip? (wanted : Symbol) : (ts : List Token) → Option (Fewer ts)
  | t :: rest => if t = .symbol wanted then some (Fewer.tail t rest) else none
  | [] => none

def expect (wanted : Symbol) (ts : List Token) : Step Unit ts :=
  match skip? wanted ts with
  | some rest => .ok ((), rest)
  | none => .error (.expected (.symbol wanted) ts)

/-! ## Atoms -/

/-- The literal that a number token with a sign stands for: a double if it has a point. -/
def numberAtom (negative : Bool) (text : String) : Except ParseProblem Atom :=
  let cs := text.toList
  if '.' ∈ cs then .ok (.double (Double.ofDecimal negative (Decimal.ofChars cs)))
  else
    match Integer.ofDigits? negative cs with
    | some value => .ok (.integer value)
    | none => .error (.integerOutOfRange ((if negative then "-" else "") ++ text))

/-- Read a number token, to which the sign before it belongs. -/
def number (negative : Bool) (text : String) (rest : List Token) :
    Step Atom (.number text :: rest) :=
  match numberAtom negative text with
  | .ok value => take value (.number text) rest
  | .error problem => .error (.here problem (.number text :: rest))

/-- The tokens after `date and time (`, if the given ones start so. -/
def afterDateCall? : (ts : List Token) → Option (Fewer ts)
  | .identifier date :: .symbol .and :: .identifier time :: .symbol .leftParen :: rest =>
    if date = "date" ∧ time = "time" then some ⟨rest, by simp only [List.length_cons]; omega⟩
    else none
  | _ => none

/-- Read the argument of a date-time literal and the closing parenthesis. -/
def dateArgument (ts : List Token) : Step Atom ts :=
  match ts with
  | .string text :: rest =>
    match DateTime.ofChars text.toList with
    | .error problem => .error (.here (.invalidDate text problem) (.string text :: rest))
    | .ok value => ((expect .rightParen rest).map fun _ => .date value).after (.string text)
  | ts => .error (.expected .dateTimeText ts)

/-- Read a literal or variable. -/
def atom (ts : List Token) : Step Atom ts :=
  match ts with
  | .number text :: rest => number false text rest
  | .symbol .minus :: .number text :: rest => (number true text rest).after (.symbol .minus)
  | .symbol .minus :: rest => .error (.expected .numberAfterMinus rest)
  | .string value :: rest => take (.string value) (.string value) rest
  | .symbol .true :: rest => take (.boolean true) (.symbol .true) rest
  | .symbol .false :: rest => take (.boolean false) (.symbol .false) rest
  | .identifier name :: rest =>
    match afterDateCall? (.identifier name :: rest) with
    | none => take (.variable name) (.identifier name) rest
    | some argument =>
      match dateArgument argument.val with
      | .error failure => .error failure
      | .ok (value, last) => .ok (value, argument.trans last)
  | .unterminatedString :: rest =>
    .error (.here .unterminatedString (.unterminatedString :: rest))
  | ts => .error (.unexpected ts)

/-! ## Infix operations -/

/-- The levels of the infix operators that group to the left, from the loosest to the tightest. -/
inductive Level where
  | disjunctive | conjunctive | additive | multiplicative
deriving DecidableEq, Repr

namespace Level

/-- The next tighter level, if there is one that groups to the left. -/
def tighter? : Level → Option Level
  | disjunctive => some conjunctive
  | conjunctive => some additive
  | additive => some multiplicative
  | multiplicative => none

def rank : Level → Nat
  | disjunctive => 3
  | conjunctive => 2
  | additive => 1
  | multiplicative => 0

theorem rank_of_tighter? {level next : Level} (isTighter : level.tighter? = some next) :
    next.rank + 1 = level.rank := by
  cases level <;> simp only [tighter?, Option.some.injEq, reduceCtorEq] at isTighter <;>
    subst isTighter <;> rfl

def operator? : Level → Token → Option Operator
  | disjunctive, .symbol .or => some .or
  | conjunctive, .symbol .and => some .and
  | additive, .symbol .plus => some .add
  | additive, .symbol .minus => some .sub
  | multiplicative, .symbol .star => some .mul
  | multiplicative, .symbol .slash => some .div
  | _, _ => none

end Level

mutual

/-- Read an atom, or an expression in parentheses. -/
def primary (ts : List Token) : Step Expr ts :=
  match ts with
  | .symbol .leftParen :: inner =>
    ((operation .disjunctive inner).andThen fun e rest =>
      (expect .rightParen rest.val).map fun _ => e).after (.symbol .leftParen)
  | ts => (atom ts).map .atom
termination_by (ts.length, 0)
decreasing_by exact Prod.Lex.left _ _ (Nat.lt_succ_self _)

/-- Read a primary, raised to a power or not. -/
def power (ts : List Token) : Step Expr ts :=
  match primary ts with
  | .error failure => .error failure
  | .ok (base, rest) =>
    match skip? .starStar rest.val with
    | none => .ok (base, rest)
    | some exponent =>
      match power exponent.val with
      | .error failure => .error failure
      | .ok (e, last) => .ok (.binary base .exp e, rest.trans (exponent.trans last))
termination_by (ts.length, 1)
decreasing_by
  · exact Prod.Lex.right _ (by decide)
  · exact Prod.Lex.left _ _ (Nat.lt_trans exponent.property rest.property)

/-- Read an operand of the operators of a level.  Only tighter operators occur in it. -/
def operand (level : Level) (ts : List Token) : Step Expr ts :=
  match _isTighter : level.tighter? with
  | some next => operation next ts
  | none => power ts
termination_by (ts.length, 2 * level.rank + 2)
decreasing_by
  · exact Prod.Lex.right _ (by have := Level.rank_of_tighter? _isTighter; omega)
  · exact Prod.Lex.right _ (by omega)

/-- Read operands of a level with its operators between them. -/
def operation (level : Level) (ts : List Token) : Step Expr ts :=
  match operand level ts with
  | .error failure => .error failure
  | .ok (left, rest) =>
    match continuation level left rest.val with
    | .error failure => .error failure
    | .ok (e, last) => .ok (e, rest.ofLe last.val last.property)
termination_by (ts.length, 2 * level.rank + 3)
decreasing_by
  · exact Prod.Lex.right _ (by omega)
  · exact Prod.Lex.left _ _ rest.property

/-- Read operators of a level and their right operands, as long as there are any, and put them to
the right of what has been read already. -/
def continuation (level : Level) (left : Expr) (ts : List Token) :
    Except ParseFailure (Expr × { rest : List Token // rest.length ≤ ts.length }) :=
  match ts with
  | [] => .ok (left, ⟨[], Nat.le_refl _⟩)
  | t :: rest =>
    match level.operator? t with
    | none => .ok (left, ⟨t :: rest, Nat.le_refl _⟩)
    | some operator =>
      match operand level rest with
      | .error failure => .error failure
      | .ok (right, after) =>
        match continuation level (.binary left operator right) after.val with
        | .error failure => .error failure
        | .ok (e, last) =>
          .ok (e, ⟨last.val,
            Nat.le_succ_of_le (Nat.le_trans last.property (Nat.le_of_lt after.property))⟩)
termination_by (ts.length, 0)
decreasing_by
  · exact Prod.Lex.left _ _ (Nat.lt_succ_self _)
  · exact Prod.Lex.left _ _ (Nat.lt_succ_of_lt after.property)

end

/-- Read an expression without comparisons, ranges and alternatives. -/
def value (ts : List Token) : Step Expr ts := operation .disjunctive ts

/-! ## Ranges -/

/-- Read a bound of a range.  It is read like any primary and must turn out to be an atom, which it
also is in parentheses. -/
def bound (ts : List Token) : Step Atom ts :=
  match primary ts with
  | .error failure => .error failure
  | .ok (.atom a, rest) => .ok (a, rest)
  | .ok (_, rest) => .error ⟨.boundNotAtom, ts, rest.val⟩

/-- Whether a bound and two dots come next. -/
def rangeAhead (ts : List Token) : Bool :=
  match bound ts with
  | .ok (_, rest) => (skip? .dots rest.val).isSome
  | .error _ => false

/-- Read the closing bracket of a range.  A square one takes the upper bound in. -/
def closingBracket (ts : List Token) : Step Bool ts :=
  match skip? .rightBracket ts with
  | some rest => .ok (true, rest)
  | none =>
    match skip? .rightParen ts with
    | some rest => .ok (false, rest)
    | none => .error (.expected .closingBracket ts)

/-- Read a range after its opening bracket. -/
def range (lowerIncluded : Bool) (ts : List Token) : Step Expr ts :=
  (bound ts).andThen fun lower afterLower =>
    (expect .dots afterLower.val).andThen fun _ afterDots =>
      (bound afterDots.val).andThen fun upper afterUpper =>
        (closingBracket afterUpper.val).map fun upperIncluded =>
          .range lowerIncluded (.atom lower) (.atom upper) upperIncluded

/-! ## Alternatives -/

def comparison? : Token → Option Operator
  | .symbol .less => some .lt
  | .symbol .lessEqual => some .le
  | .symbol .greater => some .gt
  | .symbol .greaterEqual => some .ge
  | _ => none

/-- Read a comparison with a value, or a value alone. -/
def comparison (ts : List Token) : Step Expr ts :=
  match ts with
  | [] => value []
  | t :: rest =>
    match comparison? t with
    | none => value (t :: rest)
    | some operator => ((value rest).map (.unary operator)).after t

mutual

/-- Read one alternative: a range, a negation, a comparison or a value. -/
def alternative (ts : List Token) : Step Expr ts :=
  match ts with
  | .symbol .leftBracket :: inner => (range true inner).after (.symbol .leftBracket)
  | .symbol .leftParen :: inner =>
    if rangeAhead inner then (range false inner).after (.symbol .leftParen)
    else comparison (.symbol .leftParen :: inner)
  | .symbol .not :: rest =>
    ((expect .leftParen rest).andThen fun _ inner =>
      (alternatives inner.val).andThen fun negated afterNegated =>
        (expect .rightParen afterNegated.val).map fun _ => .unary .not negated).after
      (.symbol .not)
  | ts => comparison ts
termination_by (ts.length, 0)
decreasing_by exact Prod.Lex.left _ _ (Nat.lt_succ_of_lt inner.property)

/-- Read one or more alternatives with commas between them. -/
def alternatives (ts : List Token) : Step Expr ts :=
  match alternative ts with
  | .error failure => .error failure
  | .ok (head, rest) =>
    match skip? .comma rest.val with
    | none => .ok (head, rest)
    | some others =>
      match alternatives others.val with
      | .error failure => .error failure
      | .ok (tail, last) => .ok (.disjunction head tail, rest.trans (others.trans last))
termination_by (ts.length, 1)
decreasing_by
  · exact Prod.Lex.right _ (by decide)
  · exact Prod.Lex.left _ _ (Nat.lt_trans others.property rest.property)

end

/-- Read alternatives that take up all of the tokens. -/
def complete (ts : List Token) : Except ParseFailure Expr :=
  match (alternatives ts).run with
  | .error failure => .error failure
  | .ok (e, []) => .ok e
  | .ok (_, rest) => .error (.unexpected rest)

end Parser
end CellCheck
