import CellCheck.Proofs.Grammar.Basic
import CellCheck.Proofs.Lexing.WellFormed

/-!
# The trees of cells

The type of trees holds many trees that no cell denotes.  `Expr.Written` describes those that the
parser can produce from the tokens of a text: the empty expression and lists of alternatives do not
occur below operators, the bounds of a range are atoms, and the atoms are what tokens can stand
for.  The description goes by the form of the tree, and forgets the levels of the operators.
-/

namespace CellCheck

namespace Double

theorem nearestMagnitude_le (numerator denominator : Nat) :
    nearestMagnitude numerator denominator ≤ infinityMagnitude :=
  Nat.min_le_right _ _

/-- Reading a decimal gives a number, if only an infinity. -/
theorem isNaN_ofDecimal (negative : Bool) (d : Decimal) : (ofDecimal negative d).isNaN = false := by
  simp only [ofDecimal, nearest, isNaN]
  exact decide_eq_false (Nat.not_lt.mpr (nearestMagnitude_le _ _))

end Double

/-- Whether an atom can stand in a cell. -/
def Atom.Written : Atom → Prop
  | .double value => value.isNaN = false
  | .string value => value.toList.getLast? ≠ some '\\'
  | .variable name => Token.IsName name
  | .boolean _ | .date _ | .integer _ => True

def Operator.isInfix : Operator → Bool
  | add | sub | mul | div | exp | and | or => true
  | gt | ge | lt | le | not => false

namespace Expr

/-- The forms of the trees of cells, each of which includes those before it. -/
inductive Form where
  | value | alternative | alternatives
deriving DecidableEq, Repr

/-- The trees of each form. -/
inductive Written : Form → Expr → Prop
  | atom {value : Atom} (written : value.Written) : Written .value (.atom value)
  | operation {operator : Operator} {left right : Expr} (isInfix : operator.isInfix = true)
      (before : Written .value left) (after : Written .value right) :
      Written .value (.binary left operator right)
  | value {e : Expr} (written : Written .value e) : Written .alternative e
  | range {lowerIncluded upperIncluded : Bool} {lower upper : Atom} (first : lower.Written)
      (second : upper.Written) :
      Written .alternative (.range lowerIncluded (.atom lower) (.atom upper) upperIncluded)
  | comparison {operator : Operator} {e : Expr} (isComparison : operator.isComparison = true)
      (written : Written .value e) : Written .alternative (.unary operator e)
  | negation {e : Expr} (written : Written .alternatives e) : Written .alternative (.unary .not e)
  | single {e : Expr} (written : Written .alternative e) : Written .alternatives e
  | several {head tail : Expr} (first : Written .alternative head)
      (others : Written .alternatives tail) : Written .alternatives (.disjunction head tail)

theorem Written.of_atom {value : Atom} (written : Written .value (.atom value)) :
    value.Written := by
  cases written with
  | atom written => exact written

end Expr

namespace Grammar

open CellCheck.Parser (Level)
open CellCheck.Expr (Form Written)

def Phrase.form : Phrase → Form
  | primary | power | operation _ => .value
  | range | alternative => .alternative
  | alternatives => .alternatives

theorem form_operandPhrase (level : Level) : (operandPhrase level).form = .value := by
  cases level <;> rfl

theorem InfixOperator.isInfix {level : Level} {symbol : Symbol} {operator : Operator}
    (listed : InfixOperator level symbol operator) : operator.isInfix = true := by
  cases listed <;> rfl

theorem ComparisonOperator.isComparison {symbol : Symbol} {operator : Operator}
    (listed : ComparisonOperator symbol operator) : operator.isComparison = true := by
  cases listed <;> rfl

theorem NumberValue.written {negative : Bool} {text : String} {value : Atom}
    (reads : NumberValue negative text value) : value.Written := by
  cases reads with
  | double => exact Double.isNaN_ofDecimal _ _
  | integer => trivial

/-- The atoms of well-formed tokens can stand in cells. -/
theorem DerivesAtom.written {ts : List Token} {value : Atom} (derivation : DerivesAtom ts value)
    (wellFormed : ∀ t ∈ ts, t.WellFormed) : value.Written := by
  cases derivation with
  | number reads => exact reads.written
  | negativeNumber reads => exact reads.written
  | string value => exact wellFormed (.string value) List.mem_cons_self
  | name name => exact wellFormed (.identifier name) List.mem_cons_self
  | true | false | date => trivial

/-- The trees of well-formed tokens have the form of their phrase. -/
theorem Derives.written {p : Phrase} {ts : List Token} {e : Expr} (derivation : Derives p ts e)
    (wellFormed : ∀ t ∈ ts, t.WellFormed) : Written p.form e := by
  induction derivation with
  | atom derivation => exact .atom (derivation.written wellFormed)
  | parenthesized _ ih => exact ih fun t member => wellFormed t (by simp [member])
  | base _ ih => exact ih wellFormed
  | raised _ _ first second =>
    exact .operation rfl (first fun t member => wellFormed t (by simp [member]))
      (second fun t member => wellFormed t (by simp [member]))
  | @operand level _ _ _ ih =>
    have written := ih wellFormed
    rwa [form_operandPhrase] at written
  | @combined level _ _ _ _ _ _ listed _ _ first second =>
    have after := second fun t member => wellFormed t (by simp [member])
    rw [form_operandPhrase] at after
    exact .operation listed.isInfix (first fun t member => wellFormed t (by simp [member])) after
  | bounds _ _ _ _ first second =>
    exact .range (first fun t member => wellFormed t (by simp [member])).of_atom
      (second fun t member => wellFormed t (by simp [member])).of_atom
  | range _ ih => exact ih wellFormed
  | value _ ih => exact .value (ih wellFormed)
  | comparison listed _ ih =>
    exact .comparison listed.isComparison (ih fun t member => wellFormed t (by simp [member]))
  | negation _ ih => exact .negation (ih fun t member => wellFormed t (by simp [member]))
  | single _ ih => exact .single (ih wellFormed)
  | several _ _ first second =>
    exact .several (first fun t member => wellFormed t (by simp [member]))
      (second fun t member => wellFormed t (by simp [member]))

end Grammar
end CellCheck
