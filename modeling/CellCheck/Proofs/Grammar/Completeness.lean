import CellCheck.Proofs.Grammar.Soundness

/-!
# What has a derivation is read

A reader takes as many tokens as it can, so it finds a phrase only if the tokens after the phrase do
not continue it.  `Follows` says when this is so.  Apart from the infix operators and the comma, a
phrase can be continued in two ways that the grammar does not know: the word `date` at its end
would be taken for the start of a date-time if `and time (` came next.  No phrase is followed by
an opening parenthesis, and it turns out that this is enough to exclude it.

Values come first.  The second half of the module is about the other place where the parser looks
ahead: an opening parenthesis is taken for the start of a range if a primary with two dots after it
comes next.  In a value in parentheses the first primary is followed by an operator or the closing
parenthesis, so the parser does not confuse the two.
-/

namespace CellCheck
namespace Grammar

open CellCheck.Parser (Level Step Continues)

/-- How loose a phrase has to be for a token to continue it. -/
def binding : Token → Nat
  | .symbol .starStar => 1
  | .symbol .star | .symbol .slash => 2
  | .symbol .plus | .symbol .minus => 3
  | .symbol .and => 4
  | .symbol .or => 5
  | .symbol .comma => 8
  | _ => 9

theorem binding_of_operator {level : Level} {symbol : Symbol} {operator : Operator}
    (listed : InfixOperator level symbol operator) :
    binding (.symbol symbol) = (Phrase.operation level).looseness := by
  cases listed <;> rfl

/-- Tokens that do not turn the value before them into something else: they are no argument in
parentheses, and they do not make a date-time of the word `date`. -/
structure EndsValue (rest : List Token) : Prop where
  noArgument : rest.head? ≠ some (.symbol .leftParen)
  noCall : ∀ us, rest ≠ .symbol .and :: .identifier "time" :: .symbol .leftParen :: us

/-- Tokens that do not continue a phrase. -/
structure Follows (p : Phrase) (rest : List Token) : Prop extends EndsValue rest where
  noOperator : ∀ t, rest.head? = some t → p.looseness < binding t

theorem Follows.mono {p q : Phrase} {rest : List Token} (follows : Follows p rest)
    (tighter : q.looseness ≤ p.looseness) : Follows q rest :=
  ⟨follows.toEndsValue, fun t isHead => Nat.lt_of_le_of_lt tighter (follows.noOperator t isHead)⟩

theorem endsValue_symbol (symbol : Symbol) (us : List Token) (noParen : symbol ≠ .leftParen)
    (noAnd : symbol ≠ .and) : EndsValue (.symbol symbol :: us) := by
  constructor
  · intro same
    cases same
    exact noParen rfl
  · intro vs same
    cases same
    exact noAnd rfl

theorem follows_nil (p : Phrase) : Follows p [] := by
  refine ⟨⟨?_, ?_⟩, ?_⟩ <;> simp

/-- A symbol that binds more loosely than a phrase does not continue it. -/
theorem follows_symbol {p : Phrase} (symbol : Symbol) (us : List Token)
    (noParen : symbol ≠ .leftParen) (noAnd : symbol ≠ .and)
    (looser : p.looseness < binding (.symbol symbol)) : Follows p (.symbol symbol :: us) := by
  refine ⟨endsValue_symbol symbol us noParen noAnd, ?_⟩
  intro t isHead
  cases isHead
  exact looser

/-! ## How a phrase begins -/

/-- No phrase begins with a name and an opening parenthesis. -/
theorem Derives.noCall {p : Phrase} {ts : List Token} {e : Expr} (derivation : Derives p ts e)
    {rest : List Token} (noArgument : rest.head? ≠ some (.symbol .leftParen)) {name : String}
    {us : List Token} : ts ++ rest ≠ .identifier name :: .symbol .leftParen :: us := by
  induction derivation generalizing rest with
  | atom derivation =>
    intro same
    cases derivation <;> cases same
    exact noArgument rfl
  | base _ ih | operand _ ih | range _ ih | value _ ih | single _ ih => exact ih noArgument
  | raised _ _ ih _ | several _ _ ih _ =>
    rw [List.append_assoc]
    exact ih (by simp)
  | combined listed _ _ ih _ =>
    rw [List.append_assoc]
    apply ih
    intro same
    cases same
    cases listed
  | parenthesized | bounds | comparison | negation => simp

/-- The operator after an operand continues no tighter phrase, and the word `date` before it stays
a variable. -/
theorem follows_operator {level : Level} {symbol : Symbol} {operator : Operator} {us rest : List Token}
    {e : Expr} (listed : InfixOperator level symbol operator)
    (after : Derives (operandPhrase level) us e) (ends : EndsValue rest) :
    Follows (operandPhrase level) (.symbol symbol :: us ++ rest) := by
  refine ⟨⟨?_, ?_⟩, ?_⟩
  · intro same
    cases same
    cases listed
  · intro vs same
    exact after.noCall ends.noArgument (List.cons.inj same).2
  · intro t isHead
    cases isHead
    rw [binding_of_operator listed]
    exact looseness_operandPhrase level

/-- A value begins with a primary.  What follows this primary does not continue it, and it is the
end of the value or an infix operator. -/
theorem Derives.exists_primary {p : Phrase} {ts : List Token} {e : Expr}
    (derivation : Derives p ts e) (isValue : p.IsValue) {rest : List Token}
    (ends : EndsValue rest) :
    ∃ us vs first, ts ++ rest = us ++ vs ∧ Derives .primary us first ∧ EndsValue vs ∧
      (vs.head? = some (.symbol .dots) → rest.head? = some (.symbol .dots)) := by
  induction derivation generalizing rest with
  | atom derivation => exact ⟨_, rest, _, rfl, .atom derivation, ends, id⟩
  | parenthesized derivation => exact ⟨_, rest, _, rfl, .parenthesized derivation, ends, id⟩
  | base _ ih => exact ih trivial ends
  | operand _ ih => exact ih (operandPhrase_isValue _) ends
  | @raised _ us _ _ _ _ ih _ =>
    rcases ih trivial (endsValue_symbol .starStar (us ++ rest) (by decide) (by decide)) with
      ⟨us, vs, first, split, primary, endsFirst, noDots⟩
    refine ⟨us, vs, first, by rw [List.append_assoc]; exact split, primary, endsFirst, ?_⟩
    intro dots
    cases noDots dots
  | combined listed _ after ih _ =>
    rcases ih trivial (follows_operator listed after ends).toEndsValue with
      ⟨us, vs, first, split, primary, endsFirst, noDots⟩
    refine ⟨us, vs, first, by rw [List.append_assoc]; exact split, primary, endsFirst, ?_⟩
    intro dots
    cases noDots dots
    cases listed
  | bounds | range | value | comparison | negation | single | several => exact isValue.elim

/-! ## Atoms -/

theorem number_complete {negative : Bool} {text : String} {a : Atom}
    (reads : NumberValue negative text a) (rest : List Token) :
    (Parser.number negative text rest).run = .ok (a, rest) := by
  unfold Parser.number
  rw [numberAtom_eq_ok_iff.mpr reads]
  rfl

theorem atom_complete {ts rest : List Token} {a : Atom} (derivation : DerivesAtom ts a)
    (ends : EndsValue rest) : (Parser.atom (ts ++ rest)).run = .ok (a, rest) := by
  cases derivation with
  | number reads => exact number_complete reads rest
  | negativeNumber reads => exact Step.after_eq_ok_iff.mpr (number_complete reads rest)
  | string | true | false => rfl
  | name name =>
    have isVariable : Parser.afterDateCall? (.identifier name :: rest) = none := by
      rw [Option.eq_none_iff_forall_ne_some]
      intro argument found
      exact ends.noCall _ (List.cons.inj (afterDateCall?_eq_some_iff.mp found)).2
    simp only [List.singleton_append, Parser.atom, isVariable]
    rfl
  | @date text value reads =>
    have isCall : Parser.afterDateCall? (.identifier "date" :: .symbol .and :: .identifier "time" ::
        .symbol .leftParen :: .string text :: .symbol .rightParen :: rest) =
        some ⟨.string text :: .symbol .rightParen :: rest, by simp only [List.length_cons]; omega⟩ :=
      afterDateCall?_eq_some_iff.mpr rfl
    simp only [List.cons_append, List.nil_append, Parser.atom, isCall, Parser.dateArgument, reads]
    rfl

/-! ## Values -/

/-- The reader of a phrase finds it in front of tokens that do not continue it.  For an operation
this is said in a form that an operation can be extended in: the loop goes on after it as if it had
read the operation itself. -/
def Completes : Phrase → List Token → Expr → Prop
  | .operation level, ts, e => ∀ rest, Follows (operandPhrase level) rest → ∀ e' rest',
      Continues level e rest e' rest' → Reads (.operation level) (ts ++ rest) e' rest'
  | p, ts, e => ∀ rest, Follows p rest → Reads p (ts ++ rest) e rest

/-- The loop over the operators of a level ends where no operator of the level follows. -/
theorem continues_of_follows {level : Level} {e : Expr} {rest : List Token}
    (follows : Follows (.operation level) rest) : Continues level e rest e rest := by
  refine Parser.continues_iff.mpr (Or.inl ⟨fun t isHead => ?_, rfl, rfl⟩)
  rw [Option.eq_none_iff_forall_ne_some]
  intro operator found
  rcases operator?_eq_some_iff.mp found with ⟨symbol, rfl, listed⟩
  have looser := follows.noOperator _ isHead
  rw [binding_of_operator listed] at looser
  exact Nat.lt_irrefl _ looser

theorem Completes.reads {p : Phrase} {ts rest : List Token} {e : Expr}
    (completes : Completes p ts e) (follows : Follows p rest) : Reads p (ts ++ rest) e rest := by
  cases p with
  | operation level =>
    exact completes rest (follows.mono (Nat.le_of_lt (looseness_operandPhrase level))) _ _
      (continues_of_follows follows)
  | _ => exact completes rest follows

/-- Readers of values find every derivation. -/
theorem Derives.completes_value {p : Phrase} {ts : List Token} {e : Expr}
    (derivation : Derives p ts e) (isValue : p.IsValue) : Completes p ts e := by
  induction derivation with
  | atom derivation =>
    intro rest follows
    exact Parser.primary_eq_ok_iff.mpr
      (Or.inr ⟨_, atom_complete derivation follows.toEndsValue, rfl⟩)
  | @parenthesized ts e _ ih =>
    intro rest _
    refine Parser.primary_eq_ok_iff.mpr (Or.inl ⟨ts ++ .symbol .rightParen :: rest, by simp, ?_⟩)
    exact (ih trivial).reads (follows_symbol .rightParen rest (by decide) (by decide) (by decide))
  | base _ ih =>
    intro rest follows
    have first := (ih trivial).reads (follows.mono (q := .primary) (by decide))
    refine Parser.power_eq_ok_iff.mpr ⟨_, _, first, Or.inl ⟨?_, rfl, rfl⟩⟩
    intro isStar
    exact absurd (follows.noOperator _ isStar) (by decide)
  | @raised _ us _ _ _ _ ihBase ihExponent =>
    intro rest follows
    rw [List.append_assoc]
    have first := (ihBase trivial).reads
      (follows_symbol .starStar (us ++ rest) (by decide) (by decide) (by decide))
    exact Parser.power_eq_ok_iff.mpr
      ⟨_, _, first, Or.inr ⟨_, _, rfl, (ihExponent trivial).reads follows, rfl⟩⟩
  | operand _ ih =>
    intro rest follows e' rest' later
    have first := (ih (operandPhrase_isValue _)).reads follows
    exact Parser.operation_eq_ok_iff.mpr ⟨_, _, reads_operandPhrase_iff.mp first, later⟩
  | combined listed _ after ihBefore ihAfter =>
    intro rest follows e' rest' later
    rw [List.append_assoc]
    -- The loop that has read the operand before the operator goes on with the operator.
    refine ihBefore trivial _ (follows_operator listed after follows.toEndsValue) _ _ ?_
    have second := (ihAfter (operandPhrase_isValue _)).reads follows
    exact Parser.continues_iff.mpr (Or.inr ⟨_, _, _, _, _, rfl,
      operator?_eq_some_iff.mpr ⟨_, rfl, listed⟩, reads_operandPhrase_iff.mp second, later⟩)
  | bounds | range | value | comparison | negation | single | several => exact isValue.elim

/-- A primary is found in front of everything that ends a value. -/
theorem Derives.primary_reads {ts rest : List Token} {e : Expr}
    (derivation : Derives .primary ts e) (ends : EndsValue rest) :
    (Parser.primary (ts ++ rest)).run = .ok (e, rest) := by
  refine (derivation.completes_value trivial).reads (p := .primary) ⟨ends, ?_⟩
  intro t _
  cases t with
  | symbol s => cases s <;> decide
  | _ => exact Nat.zero_lt_succ _

/-! ## Conditions -/

/-- The first token of a value starts neither a range with a square bracket, nor a negation, nor a
comparison. -/
theorem Derives.exists_head {p : Phrase} {ts rest : List Token} {e : Expr}
    (derivation : Derives p ts e) (isValue : p.IsValue) (ends : EndsValue rest) :
    ∃ t, (ts ++ rest).head? = some t ∧ t ≠ .symbol .leftBracket ∧ t ≠ .symbol .not ∧
      Parser.comparison? t = none := by
  rcases derivation.exists_primary isValue ends with ⟨us, vs, first, split, primary, _, _⟩
  rw [split]
  cases primary with
  | atom derivation =>
    cases derivation <;> exact ⟨_, rfl, by simp, by simp, rfl⟩
  | parenthesized => exact ⟨_, rfl, by simp, by simp, rfl⟩

/-- A value in front of something other than two dots does not begin like the bounds of a
range. -/
theorem Derives.rangeAhead_eq_false {p : Phrase} {ts rest : List Token} {e : Expr}
    (derivation : Derives p ts e) (isValue : p.IsValue) (ends : EndsValue rest)
    (noDots : rest.head? ≠ some (.symbol .dots)) : Parser.rangeAhead (ts ++ rest) = false := by
  rcases derivation.exists_primary isValue ends with
    ⟨us, vs, first, split, primary, endsFirst, onlyIf⟩
  rw [Bool.eq_false_iff, split, ne_eq, Parser.rangeAhead_iff]
  rintro ⟨a, ws, bound⟩
  rw [primary.primary_reads endsFirst] at bound
  cases bound
  exact noDots (onlyIf rfl)

/-- A value that begins with an opening parenthesis is not taken for a range. -/
theorem Derives.parenthesis_no_range {p : Phrase} {ts rest inner : List Token} {e : Expr}
    (derivation : Derives p ts e) (isValue : p.IsValue) (ends : EndsValue rest)
    (opens : ts ++ rest = .symbol .leftParen :: inner) : Parser.rangeAhead inner = false := by
  rcases derivation.exists_primary isValue ends with ⟨us, vs, first, split, primary, _, _⟩
  rw [split] at opens
  cases primary with
  | atom derivation => cases derivation <;> cases opens
  | @parenthesized ws _ derivation =>
    have inside : inner = ws ++ .symbol .rightParen :: vs := by
      simpa using (List.cons.inj opens).2.symm
    rw [inside]
    exact derivation.rangeAhead_eq_false trivial
      (endsValue_symbol .rightParen vs (by decide) (by decide)) (by simp)

theorem alternative_of_value {ts rest : List Token} {e : Expr} (derivation : Derives valuePhrase ts e)
    (follows : Follows valuePhrase rest) : Reads .alternative (ts ++ rest) e rest := by
  have ends := follows.toEndsValue
  rcases derivation.exists_head trivial ends with ⟨t, isHead, noBracket, noNot, noComparison⟩
  refine Parser.alternative_eq_ok_iff.mpr (Or.inr (Or.inr (Or.inr ⟨?_, ?_, ?_, ?_⟩)))
  · rw [isHead]
    exact fun same => noBracket (Option.some.inj same)
  · rw [isHead]
    exact fun same => noNot (Option.some.inj same)
  · exact fun inner opens => derivation.parenthesis_no_range trivial ends opens
  · refine Parser.comparison_eq_ok_iff.mpr (Or.inr ⟨?_, ?_⟩)
    · intro u isFirst
      rw [isHead, Option.some.injEq] at isFirst
      exact isFirst ▸ noComparison
    · exact (derivation.completes_value trivial).reads follows

/-- The reader of a phrase finds every derivation in front of tokens that do not continue it. -/
theorem Derives.reads {p : Phrase} {ts rest : List Token} {e : Expr} (derivation : Derives p ts e)
    (follows : Follows p rest) : Reads p (ts ++ rest) e rest := by
  by_cases isValue : p.IsValue
  · exact (derivation.completes_value isValue).reads follows
  induction derivation generalizing rest with
  | atom | parenthesized | base | raised | operand | combined => exact absurd trivial isValue
  | @bounds opening closing _ _ ts us _ _ opens first second closes _ _ =>
    refine ⟨opening, _, ts ++ .symbol .dots :: (us ++ .symbol closing :: rest), by simp, opens, ?_⟩
    have lower := first.primary_reads
      (endsValue_symbol .dots (us ++ .symbol closing :: rest) (by decide) (by decide))
    have upper := second.primary_reads (endsValue_symbol closing rest
      (by cases closes <;> decide) (by cases closes <;> decide))
    exact Parser.range_eq_ok_iff.mpr ⟨_, _, _, _, _, lower, upper, closes, rfl⟩
  | range derivation ih =>
    rcases ih (follows.mono (by decide)) id with ⟨symbol, included, us, split, opens, read⟩
    rw [Reads, split]
    cases opens with
    | included => exact Parser.alternative_eq_ok_iff.mpr (Or.inl ⟨us, rfl, read⟩)
    | excluded =>
      rcases Parser.range_eq_ok_iff.mp read with ⟨lower, _, vs, _, _, first, _⟩
      have ahead := Parser.rangeAhead_iff.mpr ⟨lower, vs, first⟩
      exact Parser.alternative_eq_ok_iff.mpr (Or.inr (Or.inl ⟨us, rfl, ahead, read⟩))
  | value derivation _ => exact alternative_of_value derivation (follows.mono (by decide))
  | @comparison symbol _ ts _ listed derivation _ =>
    have operand := (derivation.completes_value trivial).reads (follows.mono (by decide))
    refine Parser.alternative_eq_ok_iff.mpr (Or.inr (Or.inr (Or.inr ⟨?_, ?_, ?_, ?_⟩)))
    · cases listed <;> simp
    · cases listed <;> simp
    · intro inner opens
      cases listed <;> cases opens
    · exact Parser.comparison_eq_ok_iff.mpr
        (Or.inl ⟨symbol, _, ts ++ rest, _, rfl, listed, operand, rfl⟩)
  | @negation ts _ derivation ih =>
    have inside := ih
      (follows_symbol .rightParen rest (by decide) (by decide) (by decide)) id
    exact Parser.alternative_eq_ok_iff.mpr (Or.inr (Or.inr (Or.inl
      ⟨ts ++ .symbol .rightParen :: rest, _, by simp, inside, rfl⟩)))
  | single derivation ih =>
    refine Parser.alternatives_eq_ok_iff.mpr
      ⟨_, rest, ih (follows.mono (by decide)) id, Or.inl ⟨?_, rfl, rfl⟩⟩
    intro isComma
    exact absurd (follows.noOperator _ isComma) (by decide)
  | @several ts us _ _ _ _ ihHead ihTail =>
    rw [List.append_assoc]
    have first := ihHead
      (follows_symbol .comma (us ++ rest) (by decide) (by decide) (by decide)) id
    exact Parser.alternatives_eq_ok_iff.mpr
      ⟨_, _, first, Or.inr ⟨us ++ rest, _, rfl, ihTail follows id, rfl⟩⟩

/-- The parser succeeds on exactly those tokens that have a derivation, with the tree of the
derivation. -/
theorem complete_eq_ok_iff_derives {ts : List Token} {e : Expr} :
    Parser.complete ts = .ok e ↔ Derives .alternatives ts e := by
  rw [Parser.complete_eq_ok_iff]
  constructor
  · intro read
    rcases sound .alternatives ts e [] read with ⟨us, split, derivation⟩
    rw [List.append_nil] at split
    exact split ▸ derivation
  · intro derivation
    have read := derivation.reads (follows_nil .alternatives)
    rwa [List.append_nil] at read

end Grammar
end CellCheck
