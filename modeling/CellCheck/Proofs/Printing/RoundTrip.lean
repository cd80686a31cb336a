import CellCheck.Proofs.Grammar.Cells
import CellCheck.Proofs.Printing.Tokens

/-!
# Reading canonical texts

The tokens of a canonical text derive the tree that was printed, as long as the tree holds no
infinity.  The text of an infinity contains a character that starts no token, and no derivation has
a place for it.  Together with what the lexer makes of a canonical text this settles which cells
survive being printed and read again.
-/

namespace CellCheck

def Atom.doubles : Atom → List Double
  | .double value => [value]
  | _ => []

def Expr.doubles : Expr → List Double
  | empty => []
  | atom value => value.doubles
  | range _ lower upper _ => lower.doubles ++ upper.doubles
  | unary _ operand => operand.doubles
  | binary left _ right => left.doubles ++ right.doubles
  | disjunction head tail => head.doubles ++ tail.doubles

theorem Double.isFinite_of_not_isInfinite {x : Double} (isNumber : x.isNaN = false)
    (notInfinite : x.isInfinite = false) : x.isFinite = true := by
  simp only [isNaN, isInfinite, isFinite, decide_eq_false_iff_not, decide_eq_true_eq,
    beq_eq_false_iff_ne, ne_eq] at *
  omega

namespace Grammar

open CellCheck.Parser (Level)
open CellCheck.Expr (Form)

/-! ## Trees without infinities -/

theorem derivesAtom_signed {negative : Bool} {text : String} {value : Atom}
    (reads : NumberValue negative text value) :
    DerivesAtom (signTokens negative ++ [.number text]) value := by
  cases negative with
  | true => exact .negativeNumber reads
  | false => exact .number reads

theorem numberValue_double {x : Double} (isFinite : x.isFinite = true) :
    NumberValue x.negative (String.ofList (Double.shortest x.magnitude).normalize.positional)
      (.double x) := by
  have point : '.' ∈ (String.ofList (Double.shortest x.magnitude).normalize.positional).toList := by
    rcases (Decimal.writes_positional (Double.shortest x.magnitude).normalize).shape with
      ⟨whole, fraction, same, _⟩
    rw [String.toList_ofList, same]
    exact List.mem_append_right _ List.mem_cons_self
  have reads : NumberValue x.negative _ _ := .double point
  rwa [String.toList_ofList, Double.ofDecimal_ofChars_positional isFinite] at reads

theorem numberValue_integer (n : Int64) :
    NumberValue (n.toInt < 0) (String.ofList (Nat.toDigits 10 n.toInt.natAbs)) (.integer n) := by
  refine .integer n ?_ ?_
  · rw [String.toList_ofList]
    exact Decimal.point_not_mem Decimal.isDigit_of_mem_toDigits
  · rw [String.toList_ofList]
    exact Integer.ofDigits?_eq_some_iff.mp (Integer.ofDigits?_toDigits n)

theorem derivesAtom_tokens {value : Atom} (written : value.Written)
    (noInfinity : ∀ x ∈ value.doubles, x.isInfinite = false) : DerivesAtom value.tokens value := by
  cases value with
  | boolean value =>
    cases value with
    | true => exact .true
    | false => exact .false
  | date value =>
    refine .date ?_
    rw [String.toList_ofList]
    exact value.ofChars_toChars
  | double value =>
    have notInfinite := noInfinity value List.mem_cons_self
    have isFinite := Double.isFinite_of_not_isInfinite written notInfinite
    rw [Atom.tokens, notInfinite]
    exact derivesAtom_signed (numberValue_double isFinite)
  | integer value => exact derivesAtom_signed (numberValue_integer value)
  | string value => exact .string value
  | «variable» name => exact .name name

theorem Derives.operation_of_power {ts : List Token} {e : Expr} (derivation : Derives .power ts e)
    (level : Level) : Derives (.operation level) ts e := by
  have product : Derives (.operation .multiplicative) ts e := .operand derivation
  have sum : Derives (.operation .additive) ts e := .operand product
  have conjunction : Derives (.operation .conjunctive) ts e := .operand sum
  cases level with
  | multiplicative => exact product
  | additive => exact sum
  | conjunctive => exact conjunction
  | disjunctive => exact .operand conjunction

theorem Derives.operand_of_primary {ts : List Token} {e : Expr} (derivation : Derives .primary ts e)
    (level : Level) : Derives (operandPhrase level) ts e := by
  cases level with
  | multiplicative => exact .base derivation
  | additive | conjunctive | disjunctive => exact (Derives.base derivation).operation_of_power _

theorem Derives.value_of_operation {level : Level} {ts : List Token} {e : Expr}
    (derivation : Derives (.operation level) ts e) : Derives valuePhrase ts e := by
  cases level with
  | multiplicative => exact .operand (.operand (.operand derivation))
  | additive => exact .operand (.operand derivation)
  | conjunctive => exact .operand derivation
  | disjunctive => exact derivation

theorem Derives.value_of_operands {operator : Operator} (isInfix : operator.isInfix = true)
    {ts us : List Token} {left right : Expr} (before : Derives .primary ts left)
    (after : Derives .primary us right) :
    Derives valuePhrase (ts ++ .symbol operator.token :: us) (.binary left operator right) := by
  have combined : ∀ {level : Level}, InfixOperator level operator.token operator →
      Derives valuePhrase (ts ++ .symbol operator.token :: us) (.binary left operator right) := by
    intro level listed
    have first := (Derives.base before).operation_of_power level
    exact (Derives.combined listed first (after.operand_of_primary level)).value_of_operation
  cases operator with
  | exp => exact (Derives.raised before (.base after)).operation_of_power _
  | or => exact combined .or
  | and => exact combined .and
  | add => exact combined .add
  | sub => exact combined .sub
  | mul => exact combined .mul
  | div => exact combined .div
  | gt | ge | lt | le | not => cases isInfix

/-- An operand is an atom or stands in parentheses, so it needs no level. -/
theorem derives_operandTokens {e : Expr} (written : e.Written .value)
    (noInfinity : ∀ x ∈ e.doubles, x.isInfinite = false)
    (derivation : Derives valuePhrase e.tokens e) :
    Derives .primary (e.operandTokens e.tokens) e := by
  cases written with
  | atom written => exact .atom (derivesAtom_tokens written noInfinity)
  | operation => exact .parenthesized derivation

/-- The phrase of the trees of a form. -/
def phraseOf : Form → Phrase
  | .value => valuePhrase
  | .alternative => .alternative
  | .alternatives => .alternatives

theorem derives_comparison {operator : Operator} (isComparison : operator.isComparison = true)
    {ts : List Token} {e : Expr} (derivation : Derives valuePhrase ts e) :
    Derives .alternative (.symbol operator.token :: ts) (.unary operator e) := by
  cases operator with
  | gt => exact .comparison .gt derivation
  | ge => exact .comparison .ge derivation
  | lt => exact .comparison .lt derivation
  | le => exact .comparison .le derivation
  | add | sub | mul | div | exp | and | or | not => cases isComparison

/-- The tokens of a tree without infinities derive the tree. -/
theorem derives_tokens {form : Form} {e : Expr} (written : e.Written form)
    (noInfinity : ∀ x ∈ e.doubles, x.isInfinite = false) :
    Derives (phraseOf form) e.tokens e := by
  induction written with
  | atom written =>
    have primary := Derives.atom (derivesAtom_tokens written noInfinity)
    exact (Derives.base primary).operation_of_power _
  | operation isInfix before after first second =>
    have left := fun x member => noInfinity x (List.mem_append_left _ member)
    have right := fun x member => noInfinity x (List.mem_append_right _ member)
    exact .value_of_operands isInfix (derives_operandTokens before left (first left))
      (derives_operandTokens after right (second right))
  | value _ ih => exact .value (ih noInfinity)
  | @range lowerIncluded upperIncluded lower upper first second =>
    have firstPrimary := Derives.atom (derivesAtom_tokens first fun x member =>
      noInfinity x (List.mem_append_left _ member))
    have secondPrimary := Derives.atom (derivesAtom_tokens second fun x member =>
      noInfinity x (List.mem_append_right _ member))
    refine .range (.bounds ?_ firstPrimary secondPrimary ?_)
    · cases lowerIncluded with
      | true => exact .included
      | false => exact .excluded
    · cases upperIncluded with
      | true => exact .included
      | false => exact .excluded
  | comparison isComparison _ ih =>
    rw [Token.tokens_comparison isComparison]
    exact derives_comparison isComparison (ih noInfinity)
  | negation _ ih => exact .negation (ih noInfinity)
  | single _ ih => exact .single (ih noInfinity)
  | several _ _ first second =>
    exact .several (first fun x member => noInfinity x (List.mem_append_left _ member))
      (second fun x member => noInfinity x (List.mem_append_right _ member))

/-! ## Trees with infinities -/

theorem mem_operandTokens {e : Expr} {t : Token} {ts : List Token} (member : t ∈ ts) :
    t ∈ e.operandTokens ts := by
  cases e with
  | binary => simp [Expr.operandTokens, member]
  | _ => exact member

/-- An infinity leaves a point without a number in the tokens of every tree that it occurs in. -/
theorem illegal_mem_tokens {e : Expr} {x : Double} (member : x ∈ e.doubles)
    (isInfinite : x.isInfinite = true) : Token.illegal '.' ∈ e.tokens := by
  induction e with
  | empty => cases member
  | atom value =>
    cases value with
    | double value =>
      rw [List.mem_singleton.mp member] at isInfinite
      simp [Expr.tokens, Atom.tokens, isInfinite]
    | _ => cases member
  | range _ _ _ _ first second =>
    rcases List.mem_append.mp member with member | member
    · simp [Expr.tokens, first member]
    · simp [Expr.tokens, second member]
  | unary operator _ ih => cases operator <;> simp [Expr.tokens, ih member]
  | binary _ _ _ first second =>
    rcases List.mem_append.mp member with member | member
    · exact List.mem_append_left _ (mem_operandTokens (first member))
    · exact List.mem_append_right _ (List.mem_cons_of_mem _ (mem_operandTokens (second member)))
  | disjunction _ _ first second =>
    rcases List.mem_append.mp member with member | member
    · exact List.mem_append_left _ (first member)
    · exact List.mem_append_right _ (List.mem_cons_of_mem _ (second member))

/-! ## Printing and reading -/

theorem DerivesCell.written {ts : List Token} {e : Expr} (derivation : DerivesCell ts e)
    (wellFormed : ∀ t ∈ ts, t.WellFormed) : e = .empty ∨ e.Written .alternatives := by
  cases derivation with
  | blank | dash => exact .inl rfl
  | condition derivation => exact .inr (derivation.written wellFormed)

/-- A tree that is read from a cell has the form of a printed tree, unless it is empty. -/
theorem written_of_parse {text : String} {e : Expr} (parsed : Cell.parse text = .ok e) :
    e = .empty ∨ e.Written .alternatives := by
  have derivation := parse_ofText_eq_ok_iff.mp parsed
  rw [Token.bare_ofText] at derivation
  exact derivation.written Token.wellFormed_of_mem_ofChars

theorem bare_print {e : Expr} (written : e.Written .alternatives) :
    (Cell.Session.ofText e.print).bare = e.tokens := by
  have tokens := Token.ofChars_toChars written Token.endsToken_nil
  rw [List.append_nil, Token.ofChars_nil, List.append_nil] at tokens
  rw [Token.bare_ofText, Expr.print, String.toList_ofList, tokens]

/-- A tree of a cell without infinities is read back from its canonical text. -/
theorem parse_print {e : Expr} (written : e.Written .alternatives)
    (noInfinity : ∀ x ∈ e.doubles, x.isInfinite = false) : Cell.parse e.print = .ok e := by
  rw [parse_ofText_eq_ok_iff, bare_print written]
  exact .condition (derives_tokens written noInfinity)

theorem parse_of_print {text : String} {e : Expr} (printed : e.print = text)
    (written : e.Written .alternatives) (noInfinity : ∀ x ∈ e.doubles, x.isInfinite = false) :
    Cell.parse text = .ok e := by
  rw [← printed]
  exact parse_print written noInfinity

section Exact

variable {text : String}

theorem parse_of_doubles_eq_nil {e : Expr} (noDoubles : e.doubles = [])
    (written : e.Written .alternatives) (printed : e.print = text) : Cell.parse text = .ok e := by
  apply parse_of_print printed written
  rw [noDoubles]
  exact List.forall_mem_nil _

theorem parse_integerRange {lower upper : Int64} {lowerIncluded upperIncluded : Bool}
    (printed : (Expr.range lowerIncluded (.atom (.integer lower)) (.atom (.integer upper))
      upperIncluded).print = text) :
    Cell.parse text =
      .ok (.range lowerIncluded (.atom (.integer lower)) (.atom (.integer upper)) upperIncluded) :=
  parse_of_doubles_eq_nil rfl (.single (.range trivial trivial)) printed

theorem parse_integerComparison {operator : Operator} (compares : operator.isComparison = true)
    {bound : Int64} (printed : (Expr.unary operator (.atom (.integer bound))).print = text) :
    Cell.parse text = .ok (.unary operator (.atom (.integer bound))) :=
  parse_of_doubles_eq_nil rfl (.single (.comparison compares (.atom trivial))) printed

/-- A string that ends in a backslash has no text: the backslash would escape the closing quote. -/
theorem parse_string {value : String} (closed : value.toList.getLast? ≠ some '\\')
    (printed : (Expr.atom (.string value)).print = text) :
    Cell.parse text = .ok (.atom (.string value)) :=
  parse_of_doubles_eq_nil rfl (.single (.value (.atom closed))) printed

end Exact

/-- The canonical text of a tree with an infinity is no cell at all. -/
theorem parse_print_ne_ok {e : Expr} (written : e.Written .alternatives) {x : Double}
    (member : x ∈ e.doubles) (isInfinite : x.isInfinite = true) (e' : Expr) :
    Cell.parse e.print ≠ .ok e' := by
  intro parsed
  rw [parse_ofText_eq_ok_iff, bare_print written] at parsed
  have impossible := parsed.legal _ (illegal_mem_tokens member isInfinite)
  cases impossible

theorem parse_print_empty : Cell.parse Expr.empty.print = .ok .empty := by
  rw [parse_ofText_eq_ok_iff, Token.bare_ofText]
  have none : Expr.empty.print.toList = [] := by rw [Expr.print, String.toList_ofList, Expr.toChars]
  rw [none, Token.ofChars_nil]
  exact .blank

/-- **Printing is inverted by reading, with one exception.**  What has been read from a cell is
read again from its canonical text exactly if it holds no infinity, which only a decimal too large
for a double gives.  With an infinity the canonical text is not read at all. -/
theorem parse_print_eq_ok_iff {text : String} {e : Expr} (parsed : Cell.parse text = .ok e) :
    (Cell.parse e.print = .ok e ↔ ∀ x ∈ e.doubles, x.isInfinite = false) ∧
      ((∃ x ∈ e.doubles, x.isInfinite = true) → ∀ e', Cell.parse e.print ≠ .ok e') := by
  rcases written_of_parse parsed with rfl | written
  · refine ⟨⟨fun _ x member => absurd member List.not_mem_nil, fun _ => parse_print_empty⟩, ?_⟩
    rintro ⟨x, member, _⟩
    exact absurd member List.not_mem_nil
  · refine ⟨⟨?_, parse_print written⟩, ?_⟩
    · intro readBack x member
      rw [Bool.eq_false_iff]
      intro isInfinite
      exact parse_print_ne_ok written member isInfinite e readBack
    · rintro ⟨x, member, isInfinite⟩
      exact parse_print_ne_ok written member isInfinite

/-- A decimal alone in a cell is the nearest double, which may be an infinity. -/
theorem parse_decimal {c d : Char} {whole fraction : List Char}
    (wholeDigits : ∀ x ∈ c :: whole, x.isDigit = true)
    (fractionDigits : ∀ x ∈ d :: fraction, x.isDigit = true) :
    Cell.parse (String.ofList (c :: whole ++ '.' :: d :: fraction)) =
      .ok (.atom (.double (.ofDecimal false (.ofChars (c :: whole ++ '.' :: d :: fraction))))) := by
  have tokens := Token.ofChars_number (.decimal wholeDigits fractionDigits) Token.endsToken_nil
  have point : '.' ∈ (String.ofList (c :: whole ++ '.' :: d :: fraction)).toList := by
    rw [String.toList_ofList]
    exact List.mem_append_right _ List.mem_cons_self
  have reads : NumberValue false _ _ := .double point
  rw [String.toList_ofList] at reads
  have primary := Derives.atom (.number reads)
  rw [List.append_nil, Token.ofChars_nil] at tokens
  rw [parse_ofText_eq_ok_iff, Token.bare_ofText, String.toList_ofList, tokens]
  exact .condition (.single (.value ((Derives.base primary).operation_of_power _)))

/-- The cell `[-1..5), not(x + "a")` is read back, and a decimal with 309 digits before its point
is not. -/
theorem parse_print_range_and_huge :
    (∃ e, Cell.parse "[-1..5), not(x + \"a\")" = .ok e ∧ Cell.parse e.print = .ok e) ∧
      ∃ text e, Cell.parse text = .ok e ∧ ∀ e', Cell.parse e.print ≠ .ok e' := by
  constructor
  · let e : Expr := .disjunction (.range true (.atom (.integer (-1))) (.atom (.integer 5)) false)
      (.unary .not (.binary (.atom (.variable "x")) .add (.atom (.string "a"))))
    have isName : Token.IsName "x" := ⟨⟨'x', [], rfl, by decide, by simp⟩, by decide⟩
    have closed : (Atom.string "a").Written := by
      change "a".toList.getLast? ≠ some '\\'
      decide
    have written : e.Written .alternatives :=
      .several (.range trivial trivial) (.single (.negation (.single (.value
        (.operation rfl (.atom isName) (.atom closed))))))
    have noInfinity : ∀ x ∈ e.doubles, x.isInfinite = false := fun _ member =>
      absurd member List.not_mem_nil
    have printed : e.print = "[-1..5), not(x + \"a\")" := by decide +kernel
    have parsed := parse_of_print printed written noInfinity
    exact ⟨e, parsed, (parse_print_eq_ok_iff parsed).1.mpr noInfinity⟩
  · have digits : ∀ x ∈ '2' :: List.replicate 308 '0', x.isDigit = true := by
      intro x member
      rcases List.mem_cons.mp member with rfl | member
      · rfl
      · exact Decimal.isDigit_of_mem_zeros x member
    have place : ∀ x ∈ ['0'], x.isDigit = true := List.all_eq_true.mp rfl
    have parsed := parse_decimal digits place
    refine ⟨_, _, parsed, (parse_print_eq_ok_iff parsed).2 ⟨_, List.mem_cons_self, ?_⟩⟩
    decide +kernel

end Grammar
end CellCheck
