import CellCheck.Proofs.Expr.Alternatives
import CellCheck.Proofs.Lexing.Extent
import CellCheck.Proofs.Printing.RoundTrip

/-!
# Cells made of cells

Two cells with a comma between them are a cell, and so are a cell in parentheses and a negated one.
The exceptions are the cells that mean something only as a whole: a blank cell and a lone minus sign
have no place inside another cell, and in parentheses there is only room for a value.

A comma and a closing parenthesis end every token in front of them, so the tokens of the new text are
those of the old ones.  What the parser makes of them is said by the grammar.  The tokens of a cell
may come with a closing parenthesis behind them, and then whatever the parser looks for at their
front ends where the cell ends: a part of the cell with its own closing parenthesis, or with two dots
as the bound of a range has, would be another derivation.
-/

namespace CellCheck

/-- The trees of values: literals and variables, and operations on two operands. -/
inductive Expr.IsValue : Expr → Prop
  | atom (value : Atom) : IsValue (.atom value)
  | binary (left : Expr) (operator : Operator) (right : Expr) :
      IsValue (.binary left operator right)

/-! ## Tokens side by side -/

namespace Grammar

variable {p : Phrase} {ts us vs rest inner : List Token} {e a b : Expr}

/-- Only a list of alternatives is a disjunction. -/
theorem Derives.ne_disjunction (derivation : Derives p ts e) (notAlternatives : p ≠ .alternatives)
    (head tail : Expr) : e ≠ .disjunction head tail := by
  induction derivation with
  | base _ ih | range _ ih | value _ ih | parenthesized _ ih => exact ih (by decide)
  | @operand level _ _ _ ih =>
    apply ih
    cases level <;> decide
  | single | several => exact absurd rfl notAlternatives
  | _ => simp

theorem Derives.ne_empty (derivation : Derives p ts e) : e ≠ .empty := by
  induction derivation with
  | parenthesized _ ih | base _ ih | operand _ ih | range _ ih | value _ ih | single _ ih => exact ih
  | _ => simp

/-- The tokens of a cell are a list of alternatives exactly if the cell has a condition. -/
theorem DerivesCell.derives_iff (cell : DerivesCell ts a) :
    Derives .alternatives ts a ↔ a ≠ .empty := by
  constructor
  · exact Derives.ne_empty
  · intro notEmpty
    cases cell with
    | blank | dash => exact absurd rfl notEmpty
    | condition derivation => exact derivation

theorem DerivesCell.derives_of_mem (cell : DerivesCell ts a) {t : Token} (member : t ∈ ts)
    (notMinus : t ≠ .symbol .minus) : Derives .alternatives ts a := by
  cases cell with
  | blank => exact absurd member List.not_mem_nil
  | dash => exact absurd (List.mem_singleton.mp member) notMinus
  | condition derivation => exact derivation

theorem Derives.isValue_tree (derivation : Derives p ts e) (isValue : p.IsValue) : e.IsValue := by
  induction derivation with
  | atom => exact .atom _
  | parenthesized _ ih | base _ ih => exact ih trivial
  | operand _ ih => exact ih (operandPhrase_isValue _)
  | raised | combined => exact .binary ..
  | bounds | range | value | comparison | negation | single | several => exact isValue.elim

theorem Derives.value_of_isValue (derivation : Derives .alternatives ts e) (isValue : e.IsValue) :
    Derives valuePhrase ts e := by
  cases derivation with
  | several => cases isValue
  | single derivation =>
    cases derivation with
    | value derivation => exact derivation
    | range derivation =>
      cases derivation
      cases isValue
    | comparison | negation => cases isValue

/-- No phrase begins with a comma, and none with a minus sign and a comma. -/
theorem Derives.append_ne_comma (derivation : Derives p ts e)
    (isBlank : vs = [] ∨ vs = [.symbol .minus]) : ts ++ rest ≠ vs ++ .symbol .comma :: us := by
  induction derivation generalizing rest with
  | atom derivation =>
    rcases isBlank with rfl | rfl
    · cases derivation <;> simp
    · cases derivation <;> simp
  | base _ ih | operand _ ih | range _ ih | value _ ih | single _ ih => exact ih
  | raised _ _ ih _ | combined _ _ _ ih _ | several _ _ ih _ =>
    rw [List.append_assoc]
    exact ih
  | parenthesized | negation => rcases isBlank with rfl | rfl <;> simp
  | bounds opens => rcases isBlank with rfl | rfl <;> cases opens <;> simp
  | comparison listed => rcases isBlank with rfl | rfl <;> cases listed <;> simp

/-- A list of alternatives begins with an alternative, and what follows it ends a value. -/
theorem Derives.exists_alternative (derivation : Derives .alternatives ts e) :
    ∃ vs rest head, ts = vs ++ rest ∧ Derives .alternative vs head ∧ EndsValue rest := by
  cases derivation with
  | single derivation =>
    exact ⟨ts, [], e, (List.append_nil ts).symm, derivation, (follows_nil .alternative).toEndsValue⟩
  | several first => exact ⟨_, _, _, rfl, first, endsValue_symbol .comma _ (by decide) (by decide)⟩

/-- In front of a closing parenthesis, a phrase with a delimiter behind it is the whole cell. -/
theorem DerivesCell.eq_of_delimited (cell : DerivesCell ts a) (part : Derives .alternatives vs e)
    {symbol : Symbol} (delimits : symbol = .dots ∨ symbol = .rightParen)
    (split : ts ++ [.symbol .rightParen] = vs ++ .symbol symbol :: rest) :
    symbol = .rightParen ∧ vs = ts ∧ e = a ∧ rest = [] := by
  rcases derives_ne_blank part with ⟨notNil, notMinus⟩
  cases cell with
  | blank =>
    rcases List.exists_cons_of_ne_nil notNil with ⟨v, ws, rfl⟩
    simp at split
  | dash =>
    rcases List.exists_cons_of_ne_nil notNil with ⟨v, ws, rfl⟩
    cases ws with
    | nil =>
      cases split
      exact absurd rfl notMinus
    | cons => simp at split
  | condition derivation =>
    -- Both derivations are what the parser finds at the front of the same tokens.
    have whole := derivation.reads
      (follows_symbol .rightParen [] (by decide) (by decide) (by decide))
    have front : Reads .alternatives (vs ++ .symbol symbol :: rest) e (.symbol symbol :: rest) := by
      apply part.reads
      rcases delimits with rfl | rfl
      · exact follows_symbol .dots rest (by decide) (by decide) (by decide)
      · exact follows_symbol .rightParen rest (by decide) (by decide) (by decide)
    rw [split, Reads] at whole
    rw [Reads, whole, Except.ok.injEq, Prod.mk.injEq, List.cons.injEq, Token.symbol.injEq] at front
    rcases front with ⟨rfl, rfl, rfl⟩
    exact ⟨rfl, (List.append_cancel_right split).symm, rfl, rfl⟩

/-! ## Alternatives behind a comma -/

theorem Derives.comma (before : Derives .alternatives ts a) (after : Derives .alternatives us b) :
    ∃ e, Expr.disjunctionOf? (a.alternatives ++ b.alternatives) = some e ∧
      Derives .alternatives (ts ++ .symbol .comma :: us) e := by
  generalize isAlternatives : Phrase.alternatives = p at before
  induction before with
  | single derivation =>
    rw [Expr.alternatives_of_ne_disjunction (derivation.ne_disjunction (by decide))]
    exact ⟨_, Expr.disjunctionOf?_cons b.disjunctionOf?_alternatives, .several derivation after⟩
  | several first _ _ ih =>
    rcases ih rfl with ⟨e, joined, derivation⟩
    rw [List.append_assoc]
    exact ⟨_, Expr.disjunctionOf?_cons joined, .several first derivation⟩
  | _ => cases isAlternatives

/-- Behind an alternative and a comma the parser finds alternatives. -/
theorem Derives.exists_reads_behind (first : Derives .alternative ts a)
    (read : Reads .alternatives (ts ++ .symbol .comma :: us) e rest) :
    ∃ b, Reads .alternatives us b rest := by
  have alone := first.reads (follows_symbol .comma us (by decide) (by decide) (by decide))
  rcases Parser.alternatives_eq_ok_iff.mp read with
    ⟨head, middle, again, ⟨noComma, _⟩ | ⟨_, b, isComma, others, _⟩⟩
  · rw [Reads, again] at alone
    cases alone
    exact absurd rfl noComma
  · rw [Reads, again] at alone
    cases alone
    cases isComma
    exact ⟨b, others⟩

theorem Derives.exists_reads_of_comma (before : Derives .alternatives ts a)
    (read : Reads .alternatives (ts ++ .symbol .comma :: us) e rest) :
    ∃ b, Reads .alternatives us b rest := by
  generalize isAlternatives : Phrase.alternatives = p at before
  induction before generalizing e with
  | single derivation => exact derivation.exists_reads_behind read
  | several first _ _ ih =>
    rw [List.append_assoc] at read
    rcases first.exists_reads_behind read with ⟨tail, others⟩
    exact ih others rfl
  | _ => cases isAlternatives

/-- With a comma between them, two cells are a cell exactly if both have a condition. -/
theorem DerivesCell.comma_iff (first : DerivesCell ts a) (second : DerivesCell us b)
    (joined : Expr.disjunctionOf? (a.alternatives ++ b.alternatives) = some e) {e' : Expr} :
    DerivesCell (ts ++ .symbol .comma :: us) e' ↔ (a ≠ .empty ∧ b ≠ .empty) ∧ e' = e := by
  have together : a ≠ .empty → b ≠ .empty → DerivesCell (ts ++ .symbol .comma :: us) e := by
    intro notEmpty notEmpty'
    rcases (first.derives_iff.mpr notEmpty).comma (second.derives_iff.mpr notEmpty') with
      ⟨other, joined', derivation⟩
    rw [joined', Option.some.injEq] at joined
    exact joined ▸ .condition derivation
  constructor
  · intro cell
    have derivation := cell.derives_of_mem (t := .symbol .comma) (by simp) (by simp)
    have noBlank : ∀ {vs}, vs = [] ∨ vs = [.symbol .minus] → ts ≠ vs := by
      rintro vs isBlank rfl
      exact derivation.append_ne_comma isBlank (List.append_nil _)
    have before : Derives .alternatives ts a := by
      cases first with
      | blank => exact absurd rfl (noBlank (.inl rfl))
      | dash => exact absurd rfl (noBlank (.inr rfl))
      | condition derivation => exact derivation
    have read := derivation.reads (follows_nil .alternatives)
    rw [List.append_nil] at read
    rcases before.exists_reads_of_comma read with ⟨b', others⟩
    have after : Derives .alternatives us b' :=
      complete_eq_ok_iff_derives.mp (Parser.complete_eq_ok_iff.mpr others)
    have notEmpty' : b ≠ .empty := by
      rw [second.unique (.condition after)]
      exact after.ne_empty
    exact ⟨⟨before.ne_empty, notEmpty'⟩, cell.unique (together before.ne_empty notEmpty')⟩
  · rintro ⟨⟨notEmpty, notEmpty'⟩, rfl⟩
    exact together notEmpty notEmpty'

/-! ## Cells in parentheses -/

/-- An alternative that begins with an opening parenthesis goes on with the bound of a range or with a
value. -/
theorem Derives.exists_part_of_leftParen (derivation : Derives .alternative vs e)
    (ends : EndsValue rest) (opens : vs ++ rest = .symbol .leftParen :: inner) :
    ∃ ws part symbol after, inner = ws ++ .symbol symbol :: after ∧ Derives valuePhrase ws part ∧
      (symbol = .dots ∨ symbol = .rightParen) := by
  cases derivation with
  | range derivation =>
    cases derivation with
    | bounds _ first =>
      simp only [List.cons_append, List.append_assoc, List.cons.injEq] at opens
      exact ⟨_, _, .dots, _, opens.2.symm, (Derives.base first).operation_of_power _, .inl rfl⟩
  | value derivation =>
    rcases derivation.exists_primary trivial ends with ⟨ws, after, first, split, primary, _⟩
    rw [split] at opens
    cases primary with
    | atom derivation => cases derivation <;> cases opens
    | parenthesized derivation =>
      simp only [List.cons_append, List.append_assoc, List.cons.injEq] at opens
      exact ⟨_, _, .rightParen, after, opens.2.symm, derivation, .inr rfl⟩
  | comparison listed => cases listed <;> cases opens
  | negation => cases opens

/-- In parentheses, a cell is a cell exactly if it is a value. -/
theorem DerivesCell.parenthesized_iff (cell : DerivesCell ts a) :
    DerivesCell (.symbol .leftParen :: ts ++ [.symbol .rightParen]) e ↔ a.IsValue ∧ e = a := by
  have inParentheses : Derives valuePhrase ts a →
      DerivesCell (.symbol .leftParen :: ts ++ [.symbol .rightParen]) a := by
    intro derivation
    have power := Derives.base (.parenthesized derivation)
    exact .condition (.single (.value (power.operation_of_power _)))
  constructor
  · intro whole
    have derivation := whole.derives_of_mem List.mem_cons_self (by simp)
    rcases derivation.exists_alternative with ⟨vs, rest, head, split, first, ends⟩
    rcases first.exists_part_of_leftParen ends split.symm with
      ⟨ws, part, symbol, after, inside, value, delimits⟩
    rcases cell.eq_of_delimited (.single (.value value)) delimits inside with ⟨_, rfl, rfl, _⟩
    exact ⟨value.isValue_tree trivial, whole.unique (inParentheses value)⟩
  · rintro ⟨isValue, rfl⟩
    have notEmpty : e ≠ .empty := by
      rintro rfl
      cases isValue
    exact inParentheses ((cell.derives_iff.mpr notEmpty).value_of_isValue isValue)

/-! ## Negated cells -/

/-- An alternative that begins with a negation goes on with alternatives in parentheses. -/
theorem Derives.exists_part_of_not (derivation : Derives .alternative vs e)
    (ends : EndsValue rest) (opens : vs ++ rest = .symbol .not :: .symbol .leftParen :: inner) :
    ∃ ws part after, inner = ws ++ .symbol .rightParen :: after ∧
      Derives .alternatives ws part := by
  cases derivation with
  | range derivation =>
    cases derivation with
    | bounds isOpening =>
      cases isOpening <;> cases opens
  | value derivation =>
    rcases derivation.exists_head trivial ends with ⟨t, isHead, _, notNegation, _⟩
    rw [opens] at isHead
    cases isHead
    exact absurd rfl notNegation
  | comparison listed => cases listed <;> cases opens
  | negation derivation =>
    simp only [List.cons_append, List.append_assoc, List.cons.injEq, true_and] at opens
    exact ⟨_, _, rest, opens.symm, derivation⟩

/-- Behind a negation and an opening parenthesis, a cell is a cell exactly if it has a condition. -/
theorem DerivesCell.negation_iff (cell : DerivesCell ts a) :
    DerivesCell (.symbol .not :: .symbol .leftParen :: ts ++ [.symbol .rightParen]) e ↔
      a ≠ .empty ∧ e = .unary .not a := by
  constructor
  · intro whole
    have derivation := whole.derives_of_mem List.mem_cons_self (by simp)
    rcases derivation.exists_alternative with ⟨vs, rest, head, split, first, ends⟩
    rcases first.exists_part_of_not ends split.symm with ⟨ws, part, after, inside, negated⟩
    rcases cell.eq_of_delimited negated (.inr rfl) inside with ⟨_, rfl, rfl, _⟩
    exact ⟨negated.ne_empty, whole.unique (.condition (.single (.negation negated)))⟩
  · rintro ⟨notEmpty, rfl⟩
    exact .condition (.single (.negation (cell.derives_iff.mpr notEmpty)))

end Grammar

/-! ## Texts -/

namespace Cell

open CellCheck.Grammar (parse_ofText_eq_ok_iff)

variable {t u : String} {a b : Expr}

/-- A cell with something detached behind it keeps its tokens. -/
theorem ofChars_append_of_parse (parsed : parse t = .ok a) {tail : List Char}
    (detached : Token.Detached tail) :
    Token.ofChars (t.toList ++ tail) = Token.ofChars t.toList ++ Token.ofChars tail := by
  rw [parse_ofText_eq_ok_iff, Token.bare_ofText] at parsed
  apply Token.ofChars_append detached
  intro unclosed
  have impossible := parsed.legal _ unclosed
  cases impossible

theorem bare_comma (parsed : parse t = .ok a) :
    (Session.ofText (t ++ "," ++ u)).bare =
      (Session.ofText t).bare ++ .symbol .comma :: (Session.ofText u).bare := by
  have detached : Token.Detached (Symbol.comma.text.toList ++ u.toList) :=
    Token.detached_cons u.toList (by decide) (by decide)
  rw [Token.bare_ofText, String.toList_append, String.toList_append, List.append_assoc]
  exact (ofChars_append_of_parse parsed detached).trans
    (congrArg _ (Token.ofChars_symbol .comma trivial))

theorem ofChars_closed (parsed : parse t = .ok a) :
    Token.ofChars (t.toList ++ ")".toList) =
      (Session.ofText t).bare ++ [.symbol .rightParen] := by
  have detached : Token.Detached ")".toList := Token.detached_cons [] (by decide) (by decide)
  have closing : Token.ofChars (Symbol.rightParen.text.toList ++ []) = [.symbol .rightParen] := by
    rw [Token.ofChars_symbol .rightParen trivial, Token.ofChars_nil]
  rw [ofChars_append_of_parse parsed detached, Token.bare_ofText]
  exact congrArg _ closing

theorem bare_parenthesized (parsed : parse t = .ok a) :
    (Session.ofText ("(" ++ t ++ ")")).bare =
      .symbol .leftParen :: (Session.ofText t).bare ++ [.symbol .rightParen] := by
  rw [Token.bare_ofText, String.toList_append, String.toList_append, List.append_assoc]
  exact (Token.ofChars_symbol .leftParen trivial).trans (congrArg _ (ofChars_closed parsed))

theorem bare_negation (parsed : parse t = .ok a) :
    (Session.ofText ("not(" ++ t ++ ")")).bare =
      .symbol .not :: .symbol .leftParen :: (Session.ofText t).bare ++ [.symbol .rightParen] := by
  have text : ("not(" ++ t ++ ")").toList =
      Symbol.not.text.toList ++ (Symbol.leftParen.text.toList ++ (t.toList ++ ")".toList)) := by
    simp [Symbol.text]
  have ends : Token.EndsWord (Symbol.leftParen.text.toList ++ (t.toList ++ ")".toList)) :=
    Token.endsWord_cons _ (by decide)
  rw [Token.bare_ofText, text, Token.ofChars_symbol .not ends, Token.ofChars_symbol .leftParen trivial,
    ofChars_closed parsed]
  rfl

/-- **Cells are made of cells.**  Two cells with a comma between them are read as all of their
alternatives in order, unless one has no condition.  Parentheses around a cell change nothing, and
they are allowed if it is an atom or an operation.  Everything with a condition can be negated. -/
theorem parse_composed_iff (parsed : parse t = .ok a) (parsed' : parse u = .ok b) :
    (∃ e, Expr.disjunctionOf? (a.alternatives ++ b.alternatives) = some e ∧
      ∀ e', parse (t ++ "," ++ u) = .ok e' ↔ (a ≠ .empty ∧ b ≠ .empty) ∧ e' = e) ∧
    (∀ e, parse ("(" ++ t ++ ")") = .ok e ↔ a.IsValue ∧ e = a) ∧
    ∀ e, parse ("not(" ++ t ++ ")") = .ok e ↔ a ≠ .empty ∧ e = .unary .not a := by
  have first := parse_ofText_eq_ok_iff.mp parsed
  have second := parse_ofText_eq_ok_iff.mp parsed'
  refine ⟨?_, fun e => ?_, fun e => ?_⟩
  · rcases Expr.exists_disjunctionOf?_append a b with ⟨e, joined⟩
    refine ⟨e, joined, fun e' => ?_⟩
    rw [parse_ofText_eq_ok_iff, bare_comma parsed]
    exact first.comma_iff second joined
  · rw [parse_ofText_eq_ok_iff, bare_parenthesized parsed]
    exact first.parenthesized_iff
  · rw [parse_ofText_eq_ok_iff, bare_negation parsed]
    exact first.negation_iff

/-- The two alternatives of `x, "a"` come before a third one, may be negated together, and cannot stand
in parentheses. -/
theorem parse_composed_alternatives :
    parse "x, \"a\",y" = .ok (.disjunction (.atom (.variable "x"))
      (.disjunction (.atom (.string "a")) (.atom (.variable "y")))) ∧
    (∀ e, parse "(x, \"a\")" ≠ .ok e) ∧
    parse "not(x, \"a\")" = .ok (.unary .not (.disjunction (.atom (.variable "x"))
      (.atom (.string "a")))) := by
  have isName : ∀ {c}, Token.startsWord c = true → Token.keyword? (String.ofList [c]) = none →
      Token.IsName (String.ofList [c]) := fun starts notKeyword =>
    ⟨⟨_, [], String.toList_ofList, starts, List.forall_mem_nil _⟩, notKeyword⟩
  have closed : (Atom.string "a").Written := by
    change "a".toList.getLast? ≠ some '\\'
    decide
  have parsed : parse "x, \"a\"" = .ok (.disjunction (.atom (.variable "x"))
      (.atom (.string "a"))) :=
    Grammar.parse_of_doubles_eq_nil rfl
      (.several (.value (.atom (isName (c := 'x') (by decide) (by decide))))
        (.single (.value (.atom closed)))) (by decide +kernel)
  have parsed' : parse "y" = .ok (.atom (.variable "y")) :=
    Grammar.parse_of_doubles_eq_nil rfl
      (.single (.value (.atom (isName (c := 'y') (by decide) (by decide))))) (by decide +kernel)
  rcases parse_composed_iff parsed parsed' with ⟨⟨e, joined, comma⟩, parentheses, negated⟩
  cases joined
  refine ⟨(comma _).mpr ⟨by simp, rfl⟩, fun e read => ?_, (negated _).mpr ⟨by simp, rfl⟩⟩
  have impossible := ((parentheses e).mp read).1
  cases impossible

end Cell
end CellCheck
