import CellCheck.Expr.Parser
import CellCheck.Proofs.Number.Integer

/-!
# The grammar of cells

The parser is a set of functions that look ahead.  The grammar here is a relation that does not: it
says which lists of tokens a phrase consists of and which tree belongs to them, and leaves open how
a derivation is found.  In particular a list of tokens may well have several derivations, and
nothing in the rules prefers one over the other.

The infix operators have four levels with one pair of rules for all of them, which groups to the
left; the power has a level of its own and groups to the right.  An opening parenthesis occurs in
three rules, as the start of a range, of an expression in parentheses and of the argument of a
date-time, and the word `date` in two.  These are the places where the parser has to look ahead.

Which symbol is which operator is stated here again and is not taken from the parser.
-/

namespace CellCheck
namespace Grammar

open CellCheck.Parser (Level)

/-- The number that a number token with a sign stands for.  With a point it is the nearest double;
without one it is an integer of sixty-four bits, and if the value is not one the token stands for
nothing. -/
inductive NumberValue (negative : Bool) (text : String) : Atom → Prop
  | double (point : '.' ∈ text.toList) :
      NumberValue negative text
        (.double (Double.ofDecimal negative (Decimal.ofChars text.toList)))
  | integer (value : Int64) (noPoint : '.' ∉ text.toList)
      (exact : value.toInt =
        (if negative then -1 else 1) * (Nat.ofDigitChars 10 text.toList 0 : Int)) :
      NumberValue negative text (.integer value)

inductive DerivesAtom : List Token → Atom → Prop
  | number {text : String} {value : Atom} (reads : NumberValue false text value) :
      DerivesAtom [.number text] value
  | negativeNumber {text : String} {value : Atom} (reads : NumberValue true text value) :
      DerivesAtom [.symbol .minus, .number text] value
  | string (value : String) : DerivesAtom [.string value] (.string value)
  | true : DerivesAtom [.symbol .true] (.boolean true)
  | false : DerivesAtom [.symbol .false] (.boolean false)
  | name (name : String) : DerivesAtom [.identifier name] (.variable name)
  | date {text : String} {value : DateTime} (reads : DateTime.ofChars text.toList = .ok value) :
      DerivesAtom [.identifier "date", .symbol .and, .identifier "time", .symbol .leftParen,
        .string text, .symbol .rightParen] (.date value)

/-- The infix operators that group to the left, with their levels. -/
inductive InfixOperator : Level → Symbol → Operator → Prop
  | or : InfixOperator .disjunctive .or .or
  | and : InfixOperator .conjunctive .and .and
  | add : InfixOperator .additive .plus .add
  | sub : InfixOperator .additive .minus .sub
  | mul : InfixOperator .multiplicative .star .mul
  | div : InfixOperator .multiplicative .slash .div

/-- The comparisons that may stand in front of a value. -/
inductive ComparisonOperator : Symbol → Operator → Prop
  | lt : ComparisonOperator .less .lt
  | le : ComparisonOperator .lessEqual .le
  | gt : ComparisonOperator .greater .gt
  | ge : ComparisonOperator .greaterEqual .ge

/-- The brackets that a range may open with, and whether they take its lower bound in. -/
inductive OpeningBracket : Symbol → Bool → Prop
  | included : OpeningBracket .leftBracket Bool.true
  | excluded : OpeningBracket .leftParen Bool.false

/-- The brackets that a range may close with, and whether they take its upper bound in. -/
inductive ClosingBracket : Symbol → Bool → Prop
  | included : ClosingBracket .rightBracket Bool.true
  | excluded : ClosingBracket .rightParen Bool.false

/-- The phrases that a condition is made of. -/
inductive Phrase where
  | primary | power
  | operation (level : Level)
  | range | alternative | alternatives
deriving DecidableEq, Repr

/-- The operands of the operators of a level. -/
def operandPhrase : Level → Phrase
  | .disjunctive => .operation .conjunctive
  | .conjunctive => .operation .additive
  | .additive => .operation .multiplicative
  | .multiplicative => .power

/-- A value: an expression without comparisons, ranges and alternatives. -/
abbrev valuePhrase : Phrase := .operation .disjunctive

namespace Phrase

/-- Whether a phrase has no comparisons, ranges and alternatives outside parentheses. -/
def IsValue : Phrase → Prop
  | primary | power | operation _ => True
  | range | alternative | alternatives => False

/-- A number that grows from a phrase to those that it is a part of without a symbol around it. -/
def looseness : Phrase → Nat
  | primary => 0
  | power => 1
  | operation level => level.rank + 2
  | range => 6
  | alternative => 7
  | alternatives => 8

end Phrase

theorem looseness_operandPhrase (level : Level) :
    (operandPhrase level).looseness < (Phrase.operation level).looseness := by
  cases level <;> decide

theorem operandPhrase_isValue (level : Level) : (operandPhrase level).IsValue := by
  cases level <;> trivial

/-- The tokens that make up a phrase, and their tree. -/
inductive Derives : Phrase → List Token → Expr → Prop
  | atom {ts : List Token} {value : Atom} (derivation : DerivesAtom ts value) :
      Derives .primary ts (.atom value)
  | parenthesized {ts : List Token} {e : Expr} (derivation : Derives valuePhrase ts e) :
      Derives .primary (.symbol .leftParen :: ts ++ [.symbol .rightParen]) e
  | base {ts : List Token} {e : Expr} (derivation : Derives .primary ts e) : Derives .power ts e
  | raised {ts us : List Token} {base exponent : Expr} (left : Derives .primary ts base)
      (right : Derives .power us exponent) :
      Derives .power (ts ++ .symbol .starStar :: us) (.binary base .exp exponent)
  | operand {level : Level} {ts : List Token} {e : Expr}
      (derivation : Derives (operandPhrase level) ts e) : Derives (.operation level) ts e
  | combined {level : Level} {symbol : Symbol} {operator : Operator} {ts us : List Token}
      {left right : Expr} (listed : InfixOperator level symbol operator)
      (before : Derives (.operation level) ts left)
      (after : Derives (operandPhrase level) us right) :
      Derives (.operation level) (ts ++ .symbol symbol :: us) (.binary left operator right)
  | bounds {opening closing : Symbol} {lowerIncluded upperIncluded : Bool} {ts us : List Token}
      {lower upper : Atom} (opens : OpeningBracket opening lowerIncluded)
      (first : Derives .primary ts (.atom lower)) (second : Derives .primary us (.atom upper))
      (closes : ClosingBracket closing upperIncluded) :
      Derives .range
        (.symbol opening :: ts ++ .symbol .dots :: us ++ [.symbol closing])
        (.range lowerIncluded (.atom lower) (.atom upper) upperIncluded)
  | range {ts : List Token} {e : Expr} (derivation : Derives .range ts e) :
      Derives .alternative ts e
  | value {ts : List Token} {e : Expr} (derivation : Derives valuePhrase ts e) :
      Derives .alternative ts e
  | comparison {symbol : Symbol} {operator : Operator} {ts : List Token} {e : Expr}
      (listed : ComparisonOperator symbol operator) (derivation : Derives valuePhrase ts e) :
      Derives .alternative (.symbol symbol :: ts) (.unary operator e)
  | negation {ts : List Token} {e : Expr} (derivation : Derives .alternatives ts e) :
      Derives .alternative
        (.symbol .not :: .symbol .leftParen :: ts ++ [.symbol .rightParen]) (.unary .not e)
  | single {ts : List Token} {e : Expr} (derivation : Derives .alternative ts e) :
      Derives .alternatives ts e
  | several {ts us : List Token} {head tail : Expr} (first : Derives .alternative ts head)
      (others : Derives .alternatives us tail) :
      Derives .alternatives (ts ++ .symbol .comma :: us) (.disjunction head tail)

/-- The tokens of a whole cell, and its tree.  No tokens at all and a lone minus sign mean that the
cell has no condition. -/
inductive DerivesCell : List Token → Expr → Prop
  | blank : DerivesCell [] .empty
  | dash : DerivesCell [.symbol .minus] .empty
  | condition {ts : List Token} {e : Expr} (derivation : Derives .alternatives ts e) :
      DerivesCell ts e

/-! ## Small facts about the tables -/

theorem operator?_eq_some_iff {level : Level} {t : Token} {operator : Operator} :
    level.operator? t = some operator ↔
      ∃ symbol, t = .symbol symbol ∧ InfixOperator level symbol operator := by
  constructor
  · intro found
    unfold Level.operator? at found
    split at found <;> cases found <;> exact ⟨_, rfl, by constructor⟩
  · rintro ⟨symbol, rfl, listed⟩
    cases listed <;> rfl

theorem comparison?_eq_some_iff {t : Token} {operator : Operator} :
    Parser.comparison? t = some operator ↔
      ∃ symbol, t = .symbol symbol ∧ ComparisonOperator symbol operator := by
  constructor
  · intro found
    unfold Parser.comparison? at found
    split at found <;> cases found <;> exact ⟨_, rfl, by constructor⟩
  · rintro ⟨symbol, rfl, listed⟩
    cases listed <;> rfl

theorem numberAtom_eq_ok_iff {negative : Bool} {text : String} {value : Atom} :
    Parser.numberAtom negative text = .ok value ↔ NumberValue negative text value := by
  by_cases point : '.' ∈ text.toList
  · simp only [Parser.numberAtom, if_pos point, Except.ok.injEq]
    constructor
    · rintro rfl
      exact .double point
    · intro reads
      cases reads with
      | double => rfl
      | integer _ noPoint => exact absurd point noPoint
  · simp only [Parser.numberAtom, if_neg point]
    constructor
    · intro read
      split at read
      · next found =>
        cases read
        exact .integer _ point (Integer.ofDigits?_eq_some_iff.mp found)
      · cases read
    · intro reads
      cases reads with
      | double isPoint => exact absurd isPoint point
      | integer _ _ exact => rw [Integer.ofDigits?_eq_some_iff.mpr exact]

end Grammar
end CellCheck
