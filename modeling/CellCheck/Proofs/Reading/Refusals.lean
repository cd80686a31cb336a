import CellCheck.Proofs.Printing.RoundTrip

/-!
# Where a refusal comes from

A reader that goes forward only has no second try.  If the first primary of a value cannot be read,
the value cannot, for the same reason and at the same place, and so it is if an operand behind an
operator cannot be read.  This is the counterpart of the statement that a reader finds every
derivation: the tokens in front of a primary decide what becomes of it in the tree if it is read, and
leave the failure as it is if it is not.

Only a value in parentheses is left out.  The parser looks whether it is a range before it reads it.
-/

namespace CellCheck
namespace Grammar

open CellCheck.Parser (Level Step)

def Refuses : Phrase → List Token → ParseFailure → Prop
  | .primary, ts, failure => (Parser.primary ts).run = .error failure
  | .power, ts, failure => (Parser.power ts).run = .error failure
  | .operation level, ts, failure => (Parser.operation level ts).run = .error failure
  | .range, ts, failure => ∃ symbol included us, ts = .symbol symbol :: us ∧
      OpeningBracket symbol included ∧ (Parser.range included us).run = .error failure
  | .alternative, ts, failure => (Parser.alternative ts).run = .error failure
  | .alternatives, ts, failure => (Parser.alternatives ts).run = .error failure

variable {level : Level} {ts us : List Token} {left : Expr} {failure : ParseFailure}

theorem run_eq_error_iff {α : Type} {step : Step α ts} :
    step.run = .error failure ↔ step = .error failure := by
  match step with
  | .error other => simp [Step.run]
  | .ok (a, rest) => simp [Step.run]

/-! ## Values -/

theorem refuses_operandPhrase_iff :
    Refuses (operandPhrase level) ts failure ↔ (Parser.operand level ts).run = .error failure := by
  cases level with
  | multiplicative => rw [Parser.operand_tightest]; rfl
  | disjunctive => rw [Parser.operand_tighter .disjunctive _ rfl]; rfl
  | conjunctive => rw [Parser.operand_tighter .conjunctive _ rfl]; rfl
  | additive => rw [Parser.operand_tighter .additive _ rfl]; rfl

theorem Refuses.primary (noParen : ts.head? ≠ some (.symbol .leftParen))
    (refused : Parser.atom ts = .error failure) : Refuses .primary ts failure := by
  rw [Refuses, Parser.primary.eq_def]
  split
  · exact absurd rfl noParen
  · rw [refused]
    rfl

theorem Refuses.power (refused : Refuses .primary ts failure) : Refuses .power ts failure := by
  rw [Refuses, Parser.power_eq_joined, run_eq_error_iff.mp refused]
  rfl

/-- An operation is refused with its first operand. -/
theorem Refuses.operation (refused : Refuses (operandPhrase level) ts failure) :
    Refuses (.operation level) ts failure := by
  rw [refuses_operandPhrase_iff, run_eq_error_iff] at refused
  rw [Refuses, Parser.operation, refused]
  rfl

theorem Refuses.operand (refused : Refuses .primary ts failure) (level : Level) :
    Refuses (operandPhrase level) ts failure := by
  have product : Refuses (.operation .multiplicative) ts failure := Refuses.operation refused.power
  have sum : Refuses (.operation .additive) ts failure := Refuses.operation product
  cases level with
  | multiplicative => exact refused.power
  | additive => exact product
  | conjunctive => exact sum
  | disjunctive => exact Refuses.operation sum

/-- A value is refused with the operation of any level that it begins with. -/
theorem Refuses.value (refused : Refuses (.operation level) ts failure) :
    Refuses valuePhrase ts failure := by
  cases level with
  | multiplicative =>
    exact Refuses.operation (Refuses.operation (Refuses.operation refused))
  | additive => exact Refuses.operation (Refuses.operation refused)
  | conjunctive => exact Refuses.operation refused
  | disjunctive => exact refused

/-- An operation is refused with the operand behind its first operator. -/
theorem Refuses.behind {symbol : Symbol} {operator : Operator}
    (first : Reads (operandPhrase level) ts left (.symbol symbol :: us))
    (listed : InfixOperator level symbol operator)
    (refused : Refuses (operandPhrase level) us failure) :
    Refuses (.operation level) ts failure := by
  rw [reads_operandPhrase_iff] at first
  rcases Step.run_eq_ok_iff.mp first with ⟨shorter, read⟩
  rw [refuses_operandPhrase_iff, run_eq_error_iff] at refused
  rw [Refuses, Parser.operation, read]
  simp only [Parser.continuation, operator?_eq_some_iff.mpr ⟨symbol, rfl, listed⟩, refused]
  rfl

/-! ## What stands in front of a primary -/

/-- Tokens that take a primary behind them as the last operand of a value. -/
structure Frames (front : List Token) (tree : Expr → Expr) : Prop where
  derives : ∀ {ts e}, Derives .primary ts e → Derives valuePhrase (front ++ ts) (tree e)
  refuses : ∀ {ts failure}, Refuses .primary ts failure → Refuses valuePhrase (front ++ ts) failure

theorem frames_nil : Frames [] id :=
  ⟨fun primary => (Derives.base primary).operation_of_power _,
    fun refused => Refuses.operation (refused.operand _)⟩

theorem frames_minus (before : Derives .primary us left) :
    Frames (us ++ [.symbol .minus]) (.binary left .sub ·) := by
  constructor
  · intro ts e primary
    rw [List.append_assoc]
    have isInfix : Operator.sub.isInfix = true := rfl
    exact .value_of_operands isInfix before primary
  · intro ts failure refused
    rw [List.append_assoc]
    have follows : Follows (operandPhrase .additive) (.symbol .minus :: ts) :=
      follows_symbol .minus ts (by decide) (by decide) (by decide)
    have first := (before.operand_of_primary .additive).reads follows
    exact (Refuses.behind first .sub (refused.operand .additive)).value

/-! ## Whole cells -/

/-- Tokens that begin with no symbol which makes more of the value behind it. -/
structure StartsValue (ts : List Token) : Prop where
  noBracket : ts.head? ≠ some (.symbol .leftBracket)
  noParen : ts.head? ≠ some (.symbol .leftParen)
  noNot : ts.head? ≠ some (.symbol .not)
  noComparison : ∀ t, ts.head? = some t → Parser.comparison? t = none

theorem startsValue_number (text : String) : StartsValue (.number text :: ts) := by
  constructor <;> simp [Parser.comparison?]

theorem startsValue_minus : StartsValue (.symbol .minus :: ts) := by
  constructor <;> simp [Parser.comparison?]

/-- A cell is refused with the value that it begins with. -/
theorem Refuses.complete (starts : StartsValue ts) (refused : Refuses valuePhrase ts failure) :
    Parser.complete ts = .error failure := by
  have comparison : Parser.comparison ts = .error failure := by
    rw [Parser.comparison.eq_def]
    split
    · exact run_eq_error_iff.mp refused
    · rw [starts.noComparison _ rfl]
      exact run_eq_error_iff.mp refused
  have alternative : Parser.alternative ts = .error failure := by
    rw [Parser.alternative.eq_def]
    split
    · exact absurd rfl starts.noBracket
    · exact absurd rfl starts.noParen
    · exact absurd rfl starts.noNot
    · exact comparison
  rw [Parser.complete, Parser.alternatives_eq_joined, alternative]
  rfl

end Grammar
end CellCheck
