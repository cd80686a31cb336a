import CellCheck.Proofs.DateTime
import CellCheck.Proofs.Lexing.Symbols
import CellCheck.Proofs.Number.Shortest
import CellCheck.Proofs.Printing.Written

/-!
# The tokens of canonical texts

The canonical text of a tree is a text, and how it falls into tokens is a matter of the lexer.
Here the tokens are given as a function of the tree, and the lexer is shown to find just these in
the canonical text of every tree that a cell can have.  In particular no two neighbouring parts of
the text run together: a bound in front of the dots of a range, a comparison in front of its operand
and a word in front of a parenthesis all end where they should.

The infinities are the only atoms whose text does not show what they are: it falls into a word, a
point that starts no token, and a number.
-/

namespace CellCheck

def Operator.token : Operator → Symbol
  | gt => .greater
  | ge => .greaterEqual
  | lt => .less
  | le => .lessEqual
  | add => .plus
  | sub => .minus
  | mul => .star
  | div => .slash
  | exp => .starStar
  | and => .and
  | or => .or
  | not => .not

theorem Operator.text_token (operator : Operator) : operator.token.text = operator.symbol := by
  cases operator <;> rfl

def signTokens (negative : Bool) : List Token := if negative then [.symbol .minus] else []

/-- The tokens of the text of an atom. -/
def Atom.tokens : Atom → List Token
  | .boolean value => [.symbol (if value then .true else .false)]
  | .date value =>
    [.identifier "date", .symbol .and, .identifier "time", .symbol .leftParen,
      .string (String.ofList value.toChars), .symbol .rightParen]
  | .double value =>
    signTokens value.negative ++
      if value.isInfinite then [.identifier "inf", .illegal '.', .number "0"]
      else [.number (String.ofList (Double.shortest value.magnitude).normalize.positional)]
  | .integer value =>
    signTokens (value.toInt < 0) ++ [.number (String.ofList (Nat.toDigits 10 value.toInt.natAbs))]
  | .string value => [.string value]
  | .variable name => [.identifier name]

namespace Expr

def operandTokens : Expr → List Token → List Token
  | binary _ _ _, ts => .symbol .leftParen :: ts ++ [.symbol .rightParen]
  | _, ts => ts

/-- The tokens of the canonical text of a tree. -/
def tokens : Expr → List Token
  | empty => []
  | atom value => value.tokens
  | range lowerIncluded lower upper upperIncluded =>
    .symbol (if lowerIncluded then .leftBracket else .leftParen) :: lower.tokens ++
      .symbol .dots :: upper.tokens ++
        [.symbol (if upperIncluded then .rightBracket else .rightParen)]
  | unary .not operand =>
    .symbol .not :: .symbol .leftParen :: operand.tokens ++ [.symbol .rightParen]
  | unary operator operand => .symbol operator.token :: operand.tokens
  | binary left operator right =>
    left.operandTokens left.tokens ++
      .symbol operator.token :: right.operandTokens right.tokens
  | disjunction head tail => head.tokens ++ .symbol .comma :: tail.tokens

end Expr

namespace Token

open CellCheck.Expr (Form)

/-! ## Atoms -/

theorem ofChars_sign (negative : Bool) (cs : List Char) :
    ofChars ((if negative then ['-'] else []) ++ cs) = signTokens negative ++ ofChars cs := by
  cases negative with
  | true => exact ofChars_symbol .minus trivial
  | false => rfl

theorem ofChars_toDigits (n : Nat) {rest : List Char} (ends : EndsToken rest) :
    ofChars (Nat.toDigits 10 n ++ rest) =
      .number (String.ofList (Nat.toDigits 10 n)) :: ofChars rest := by
  have isDigits := fun c => Decimal.isDigit_of_mem_toDigits (n := n) c
  rcases List.exists_cons_of_ne_nil (Nat.toDigits_ne_nil (n := n) (b := 10)) with ⟨c, cs, same⟩
  rw [same] at isDigits ⊢
  exact ofChars_number (.whole isDigits) ends

theorem isNumber_positional (d : Decimal) : IsNumber d.positional := by
  rcases d.writes_positional.shape with
    ⟨whole, fraction, same, wholeNotNil, fractionNotNil, wholeDigits, fractionDigits⟩
  rcases List.exists_cons_of_ne_nil wholeNotNil with ⟨c, whole, rfl⟩
  rcases List.exists_cons_of_ne_nil fractionNotNil with ⟨d, fraction, rfl⟩
  rw [same]
  exact .decimal wholeDigits fractionDigits

/-- The text of an infinity falls apart. -/
theorem ofChars_inf {rest : List Char} (ends : EndsToken rest) :
    ofChars ("inf.0".toList ++ rest) =
      .identifier "inf" :: .illegal '.' :: .number "0" :: ofChars rest := by
  have word : ofChars ('i' :: ['n', 'f'] ++ '.' :: '0' :: rest) =
      .identifier "inf" :: ofChars ('.' :: '0' :: rest) :=
    ofChars_word (by decide) (List.all_eq_true.mp (by decide +kernel))
      (endsWord_cons _ (by decide))
  have point : ofChars ('.' :: [] ++ '0' :: rest) = .illegal '.' :: ofChars ('0' :: rest) :=
    ofChars_cons [] (by decide) rfl
  have number : ofChars ('0' :: [] ++ rest) = .number "0" :: ofChars rest :=
    ofChars_number (.whole (List.all_eq_true.mp (by decide))) ends
  exact word.trans (congrArg _ (point.trans (congrArg _ number)))

theorem ofChars_double {value : Double} (isNumber : value.isNaN = false) {rest : List Char}
    (ends : EndsToken rest) :
    ofChars (value.toChars ++ rest) = (Atom.double value).tokens ++ ofChars rest := by
  simp only [Double.toChars, Atom.tokens, isNumber, List.append_assoc, Bool.false_eq_true, if_false]
  rw [ofChars_sign]
  split
  · rw [ofChars_inf ends]
    rfl
  · rw [ofChars_number (isNumber_positional _) ends]
    rfl

theorem ofChars_integer (value : Int64) {rest : List Char} (ends : EndsToken rest) :
    ofChars (Integer.toChars value ++ rest) = (Atom.integer value).tokens ++ ofChars rest := by
  have signed : Integer.toChars value =
      (if decide (value.toInt < 0) then ['-'] else []) ++ Nat.toDigits 10 value.toInt.natAbs := by
    unfold Integer.toChars
    split
    · next isNegative => simp [isNegative]
    · next notNegative => simp [notNegative]
  rw [signed, List.append_assoc, ofChars_sign, ofChars_toDigits _ ends, Atom.tokens,
    List.append_assoc]
  rfl

theorem ofChars_name {name : String} (isName : IsName name) {rest : List Char}
    (ends : EndsToken rest) : ofChars (name.toList ++ rest) = .identifier name :: ofChars rest := by
  rcases isName with ⟨⟨c, cs, same, starts, continues⟩, notKeyword⟩
  have back : String.ofList (c :: cs) = name := by rw [← same, String.ofList_toList]
  rw [same, ofChars_word starts continues ends.noWord, back, ofWord, notKeyword]

theorem ofChars_dateString (value : DateTime) (rest : List Char) :
    ofChars ('"' :: value.toChars ++ '"' :: rest) =
      .string (String.ofList value.toChars) :: ofChars rest := by
  have plain : escaped value.toChars = value.toChars :=
    escaped_eq_self fun c member => DateTime.ne_of_mem_toChars (by decide) member
  have closed : value.toChars.getLast? ≠ some '\\' := by
    intro last
    exact DateTime.ne_of_mem_toChars (by decide) (List.mem_of_getLast? last) rfl
  have quotes : quoted (String.ofList value.toChars) ++ rest =
      '"' :: value.toChars ++ '"' :: rest := by
    rw [quoted, String.toList_ofList]
    change '"' :: escaped value.toChars ++ ['"'] ++ rest = _
    rw [plain, List.append_assoc]
    rfl
  rw [← quotes]
  exact ofChars_quoted _ (by rwa [String.toList_ofList]) rest

theorem ofChars_date (value : DateTime) (rest : List Char) :
    ofChars ((Atom.date value).toChars ++ rest) = (Atom.date value).tokens ++ ofChars rest := by
  have shape : (Atom.date value).toChars ++ rest =
      "date".toList ++ ' ' :: (Symbol.and.text.toList ++ ' ' :: ("time".toList ++
        (Symbol.leftParen.text.toList ++ ('"' :: value.toChars ++ '"' ::
          (Symbol.rightParen.text.toList ++ rest))))) := by
    unfold Atom.toChars
    simp [Symbol.text]
  have isDate : IsName "date" :=
    ⟨⟨'d', ['a', 't', 'e'], rfl, by decide, List.all_eq_true.mp (by decide +kernel)⟩, by decide⟩
  have isTime : IsName "time" :=
    ⟨⟨'t', ['i', 'm', 'e'], rfl, by decide, List.all_eq_true.mp (by decide +kernel)⟩, by decide⟩
  have blankEnds : ∀ cs, EndsToken (' ' :: cs) := fun cs =>
    endsToken_cons cs (by decide) (by decide)
  have parenEnds : ∀ cs, EndsToken (Symbol.leftParen.text.toList ++ cs) := fun cs =>
    endsToken_cons cs (by decide) (by decide)
  rw [shape, ofChars_name isDate (blankEnds _), ofChars_of_isBlank (by decide),
    ofChars_symbol .and (blankEnds _).noWord, ofChars_of_isBlank (by decide),
    ofChars_name isTime (parenEnds _), ofChars_symbol .leftParen trivial, ofChars_dateString,
    ofChars_symbol .rightParen trivial]
  rfl

theorem ofChars_atom {value : Atom} (written : value.Written) {rest : List Char}
    (ends : EndsToken rest) : ofChars (value.toChars ++ rest) = value.tokens ++ ofChars rest := by
  cases value with
  | boolean value =>
    cases value with
    | true => exact ofChars_symbol .true ends.noWord
    | false => exact ofChars_symbol .false ends.noWord
  | date value => exact ofChars_date value rest
  | double value => exact ofChars_double written ends
  | integer value => exact ofChars_integer value ends
  | string value => exact ofChars_quoted value written rest
  | «variable» name => exact ofChars_name written ends

/-! ## Trees -/

/-- A blank leaves every symbol in front of it as it is. -/
theorem separates_blank (s : Symbol) (cs : List Char) : Separates s (' ' :: cs) := by
  have ends : EndsWord (' ' :: cs) := endsWord_cons cs (by decide)
  cases s with
  | true | false | and | or | not => exact ends
  | star | less | greater => simp [Separates]
  | _ => trivial

theorem endsToken_blank (cs : List Char) : EndsToken (' ' :: cs) :=
  endsToken_cons cs (by decide) (by decide)

/-- Whether a symbol ends every token in front of it. -/
def Delimits : Symbol → Prop
  | .leftParen | .rightParen | .rightBracket | .comma | .dots => True
  | _ => False

theorem endsToken_symbol (s : Symbol) (delimits : Delimits s) (cs : List Char) :
    EndsToken (s.text.toList ++ cs) := by
  cases s with
  | dots => exact endsToken_dots cs
  | leftParen | rightParen | rightBracket | comma =>
    exact endsToken_cons cs (by decide) (by decide)
  | _ => exact absurd delimits id

theorem ofChars_operator (operator : Operator) (cs : List Char) :
    ofChars (operator.symbol.toList ++ ' ' :: cs) = .symbol operator.token :: ofChars cs := by
  rw [← operator.text_token, ofChars_symbol _ (separates_blank _ _), ofChars_of_isBlank (by decide)]

theorem exists_tokens_atom_eq_cons (value : Atom) :
    ∃ t ts, value.tokens = t :: ts ∧ ∀ c, t ≠ .illegal c := by
  cases value with
  | double value =>
    simp only [Atom.tokens, signTokens]
    cases value.negative <;> cases value.isInfinite <;> simp
  | integer value =>
    simp only [Atom.tokens, signTokens]
    cases decide (value.toInt < 0) <;> simp
  | _ => exact ⟨_, _, rfl, by simp⟩

/-- No tree of a cell starts with a character that starts no token. -/
theorem exists_tokens_eq_cons {form : Form} {e : Expr} (written : e.Written form) :
    ∃ t ts, e.tokens = t :: ts ∧ ∀ c, t ≠ .illegal c := by
  induction written with
  | @atom value => exact exists_tokens_atom_eq_cons value
  | @operation operator left right _ _ _ first _ =>
    rcases first with ⟨t, ts, same, legal⟩
    cases left with
    | binary => exact ⟨_, _, rfl, by simp⟩
    | _ =>
      refine ⟨t, ts ++ .symbol operator.token :: right.operandTokens right.tokens, ?_, legal⟩
      rw [← List.cons_append, ← same]
      rfl
  | value _ ih | single _ ih => exact ih
  | range | negation => exact ⟨_, _, rfl, by simp⟩
  | @comparison operator e => cases operator <;> exact ⟨_, _, rfl, by simp⟩
  | @several head tail _ _ first _ =>
    rcases first with ⟨t, ts, same, legal⟩
    refine ⟨t, ts ++ .symbol .comma :: tail.tokens, ?_, legal⟩
    rw [← List.cons_append, ← same]
    rfl

/-- The text of a tree does not turn a comparison in front of it into another one. -/
theorem head?_ne_equals {form : Form} {e : Expr} (written : e.Written form) {rest : List Char}
    (reads : ofChars (e.toChars ++ rest) = e.tokens ++ ofChars rest) :
    (e.toChars ++ rest).head? ≠ some '=' := by
  intro head
  rcases exists_tokens_eq_cons written with ⟨t, ts, same, legal⟩
  rcases List.head?_eq_some_iff.mp head with ⟨cs, equals⟩
  have illegal : ofChars ('=' :: [] ++ cs) = .illegal '=' :: ofChars cs :=
    ofChars_cons [] (by decide) rfl
  rw [equals, same] at reads
  exact legal '=' (List.cons.inj (reads.symm.trans illegal)).1

theorem toChars_comparison {operator : Operator} (isComparison : operator.isComparison = true)
    (e : Expr) : (Expr.unary operator e).toChars = operator.token.text.toList ++ e.toChars := by
  cases operator <;> first | rfl | cases isComparison

theorem tokens_comparison {operator : Operator} (isComparison : operator.isComparison = true)
    (e : Expr) : (Expr.unary operator e).tokens = .symbol operator.token :: e.tokens := by
  cases operator <;> first | rfl | cases isComparison

theorem separates_comparison {operator : Operator} (isComparison : operator.isComparison = true)
    {cs : List Char} (different : cs.head? ≠ some '=') : Separates operator.token cs := by
  cases operator <;> first | exact different | trivial

/-- An operand falls into its tokens, in parentheses if it is an infix operation. -/
theorem ofChars_operand {e : Expr}
    (reads : ∀ {rest}, EndsToken rest → ofChars (e.toChars ++ rest) = e.tokens ++ ofChars rest)
    {rest : List Char} (ends : EndsToken rest) :
    ofChars (Expr.toChars.operandChars e e.toChars ++ rest) =
      e.operandTokens e.tokens ++ ofChars rest := by
  cases e with
  | binary left operator right =>
    have text : Expr.toChars.operandChars (.binary left operator right)
        (Expr.binary left operator right).toChars ++ rest =
        Symbol.leftParen.text.toList ++ ((Expr.binary left operator right).toChars ++
          (Symbol.rightParen.text.toList ++ rest)) := by
      simp [Expr.toChars.operandChars, Symbol.text]
    rw [text, ofChars_symbol .leftParen trivial, reads (endsToken_symbol .rightParen trivial rest),
      ofChars_symbol .rightParen trivial]
    simp [Expr.operandTokens]
  | _ => exact reads ends

/-- **The canonical text of a tree falls into the tokens of the tree.** -/
theorem ofChars_toChars {form : Form} {e : Expr} (written : e.Written form) {rest : List Char}
    (ends : EndsToken rest) : ofChars (e.toChars ++ rest) = e.tokens ++ ofChars rest := by
  induction written generalizing rest with
  | atom written => exact ofChars_atom written ends
  | @operation operator left right _ _ _ first second =>
    have text : (Expr.binary left operator right).toChars ++ rest =
        Expr.toChars.operandChars left left.toChars ++ ' ' :: (operator.symbol.toList ++ ' ' ::
          (Expr.toChars.operandChars right right.toChars ++ rest)) := by
      simp [Expr.toChars]
    rw [text, ofChars_operand first (endsToken_blank _), ofChars_of_isBlank (by decide),
      ofChars_operator, ofChars_operand second ends]
    simp [Expr.tokens]
  | value _ ih | single _ ih => exact ih ends
  | @range lowerIncluded upperIncluded lower upper first second =>
    have text : (Expr.range lowerIncluded (.atom lower) (.atom upper) upperIncluded).toChars ++
        rest = (if lowerIncluded then Symbol.leftBracket else .leftParen).text.toList ++
          (lower.toChars ++ (Symbol.dots.text.toList ++ (upper.toChars ++
            ((if upperIncluded then Symbol.rightBracket else .rightParen).text.toList ++
              rest)))) := by
      cases lowerIncluded <;> cases upperIncluded <;> simp [Expr.toChars, Symbol.text]
    have opening : ∀ cs, Separates (if lowerIncluded then .leftBracket else .leftParen) cs := by
      intro cs
      cases lowerIncluded <;> trivial
    have closing : Delimits (if upperIncluded then .rightBracket else .rightParen) ∧
        ∀ cs, Separates (if upperIncluded then .rightBracket else .rightParen) cs := by
      cases upperIncluded <;> exact ⟨trivial, fun _ => trivial⟩
    rw [text, ofChars_symbol _ (opening _), ofChars_atom first (endsToken_symbol .dots trivial _),
      ofChars_symbol .dots trivial, ofChars_atom second (endsToken_symbol _ closing.1 _),
      ofChars_symbol _ (closing.2 _)]
    simp [Expr.tokens]
  | @comparison operator e isComparison written ih =>
    rw [toChars_comparison isComparison, tokens_comparison isComparison, List.append_assoc,
      ofChars_symbol _ (separates_comparison isComparison (head?_ne_equals written (ih ends))),
      ih ends]
    rfl
  | @negation e _ ih =>
    have text : (Expr.unary .not e).toChars ++ rest = Symbol.not.text.toList ++
        (Symbol.leftParen.text.toList ++ (e.toChars ++ (Symbol.rightParen.text.toList ++ rest))) := by
      simp [Expr.toChars, Symbol.text]
    rw [text, ofChars_symbol .not (endsToken_symbol .leftParen trivial _).noWord,
      ofChars_symbol .leftParen trivial, ih (endsToken_symbol .rightParen trivial rest),
      ofChars_symbol .rightParen trivial]
    simp [Expr.tokens]
  | @several head tail _ _ first second =>
    have text : (Expr.disjunction head tail).toChars ++ rest =
        head.toChars ++ (Symbol.comma.text.toList ++ ' ' :: (tail.toChars ++ rest)) := by
      simp [Expr.toChars, Symbol.text]
    rw [text, first (endsToken_symbol .comma trivial _), ofChars_symbol .comma trivial,
      ofChars_of_isBlank (by decide), second ends]
    simp [Expr.tokens]

end Token
end CellCheck
