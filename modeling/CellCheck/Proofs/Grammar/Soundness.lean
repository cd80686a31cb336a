import CellCheck.Proofs.Grammar.Readers

/-!
# What is read has a derivation

Each reader takes tokens from the front that make up a phrase with the tree that it returns.  The
statement is proved reader by reader: what one reader needs from another is a hypothesis about the
same tokens and a tighter phrase, or about fewer tokens.  The theorem at the end of the module puts
these steps together, by recursion on the number of tokens and, for the same tokens, on how tightly
a phrase binds.

Operators that group to the left are read in a loop that starts from a tree that has been built
already.  What the loop preserves is that the tokens before it, together with the ones it takes,
make up an operation.
-/

namespace CellCheck
namespace Grammar

open CellCheck.Parser (Level Step Continues)

/-- The reader of a phrase succeeds with a tree and the tokens after the phrase. -/
def Reads : Phrase → List Token → Expr → List Token → Prop
  | .primary, ts, e, rest => (Parser.primary ts).run = .ok (e, rest)
  | .power, ts, e, rest => (Parser.power ts).run = .ok (e, rest)
  | .operation level, ts, e, rest => (Parser.operation level ts).run = .ok (e, rest)
  | .range, ts, e, rest => ∃ symbol included us, ts = .symbol symbol :: us ∧
      OpeningBracket symbol included ∧ (Parser.range included us).run = .ok (e, rest)
  | .alternative, ts, e, rest => (Parser.alternative ts).run = .ok (e, rest)
  | .alternatives, ts, e, rest => (Parser.alternatives ts).run = .ok (e, rest)

theorem reads_operandPhrase_iff {level : Level} {ts rest : List Token} {e : Expr} :
    Reads (operandPhrase level) ts e rest ↔ (Parser.operand level ts).run = .ok (e, rest) := by
  cases level with
  | multiplicative => rw [Parser.operand_tightest]; rfl
  | disjunctive => rw [Parser.operand_tighter .disjunctive _ rfl]; rfl
  | conjunctive => rw [Parser.operand_tighter .conjunctive _ rfl]; rfl
  | additive => rw [Parser.operand_tighter .additive _ rfl]; rfl

theorem Reads.rest_lt {p : Phrase} {ts rest : List Token} {e : Expr} (read : Reads p ts e rest) :
    rest.length < ts.length := by
  cases p with
  | range =>
    rcases read with ⟨symbol, included, us, rfl, _, read⟩
    exact Nat.lt_succ_of_lt (Step.rest_lt read)
  | _ => exact Step.rest_lt read

/-- Whatever the reader of a phrase takes from the front of these tokens has a derivation. -/
def Sound (p : Phrase) (ts : List Token) : Prop :=
  ∀ e rest, Reads p ts e rest → ∃ us, ts = us ++ rest ∧ Derives p us e

/-! ## Atoms -/

theorem afterDateCall?_eq_some_iff {ts : List Token} {argument : Fewer ts} :
    Parser.afterDateCall? ts = some argument ↔
      ts = .identifier "date" :: .symbol .and :: .identifier "time" :: .symbol .leftParen ::
        argument.val := by
  unfold Parser.afterDateCall?
  split
  · next date time rest =>
    split
    · next words =>
      rcases words with ⟨rfl, rfl⟩
      simp [Subtype.ext_iff]
    · next different =>
      simp only [reduceCtorEq, List.cons.injEq, Token.identifier.injEq, true_and, false_iff]
      rintro ⟨isDate, isTime, _⟩
      exact different ⟨isDate, isTime⟩
  · next others =>
    simp only [reduceCtorEq, false_iff]
    exact fun same => others _ _ _ same

theorem dateArgument_sound {ts rest : List Token} {a : Atom}
    (read : (Parser.dateArgument ts).run = .ok (a, rest)) :
    ∃ text value, ts = .string text :: .symbol .rightParen :: rest ∧
      DateTime.ofChars text.toList = .ok value ∧ a = .date value := by
  unfold Parser.dateArgument at read
  split at read
  · next text us =>
    split at read
    · cases read
    · next value valid =>
      rw [Step.after_eq_ok_iff, Step.map_eq_ok_iff] at read
      rcases read with ⟨_, closed, rfl⟩
      exact ⟨text, value, by rw [Parser.expect_eq_ok_iff.mp closed], valid, rfl⟩
  · cases read

theorem number_sound {negative : Bool} {text : String} {ts rest : List Token} {a : Atom}
    (read : (Parser.number negative text ts).run = .ok (a, rest)) :
    ts = rest ∧ NumberValue negative text a := by
  unfold Parser.number at read
  split at read
  · next value reads =>
    rcases Parser.take_eq_ok_iff.mp read with ⟨rfl, same⟩
    exact ⟨same, numberAtom_eq_ok_iff.mp reads⟩
  · cases read

theorem atom_sound {ts rest : List Token} {a : Atom}
    (read : (Parser.atom ts).run = .ok (a, rest)) : ∃ us, ts = us ++ rest ∧ DerivesAtom us a := by
  unfold Parser.atom at read
  split at read
  · next text us =>
    rcases number_sound read with ⟨rfl, reads⟩
    exact ⟨_, rfl, .number reads⟩
  · next text us =>
    rw [Step.after_eq_ok_iff] at read
    rcases number_sound read with ⟨rfl, reads⟩
    exact ⟨_, rfl, .negativeNumber reads⟩
  · cases read
  · next value us =>
    rcases Parser.take_eq_ok_iff.mp read with ⟨rfl, rfl⟩
    exact ⟨_, rfl, .string value⟩
  · next us =>
    rcases Parser.take_eq_ok_iff.mp read with ⟨rfl, rfl⟩
    exact ⟨_, rfl, .true⟩
  · next us =>
    rcases Parser.take_eq_ok_iff.mp read with ⟨rfl, rfl⟩
    exact ⟨_, rfl, .false⟩
  · next name us =>
    split at read
    · rcases Parser.take_eq_ok_iff.mp read with ⟨rfl, rfl⟩
      exact ⟨_, rfl, .name name⟩
    · next argument found =>
      rcases List.cons.inj (afterDateCall?_eq_some_iff.mp found) with ⟨word, call⟩
      split at read
      · cases read
      · next value last inside =>
        cases read
        have argumentRead : (Parser.dateArgument argument.val).run = .ok (a, last.val) := by
          rw [inside]
          rfl
        rcases dateArgument_sound argumentRead with ⟨text, date, tokens, valid, rfl⟩
        refine ⟨_, ?_, .date valid⟩
        simp only [word, call, tokens]
        rfl
  · cases read
  · cases read

/-! ## Values -/

theorem primary_sound {ts : List Token}
    (inside : ∀ us, us.length < ts.length → Sound valuePhrase us) : Sound .primary ts := by
  intro e rest read
  rcases Parser.primary_eq_ok_iff.mp read with ⟨inner, rfl, body⟩ | ⟨a, leaf, rfl⟩
  · rcases inside inner (Nat.lt_succ_self _) _ _ body with ⟨us, rfl, derivation⟩
    exact ⟨_, by simp, .parenthesized derivation⟩
  · rcases atom_sound leaf with ⟨us, split, derivation⟩
    exact ⟨us, split, .atom derivation⟩

theorem power_sound {ts : List Token} (same : Sound .primary ts)
    (shorter : ∀ us, us.length < ts.length → Sound .power us) : Sound .power ts := by
  intro e rest read
  rcases Parser.power_eq_ok_iff.mp read with
    ⟨base, middle, first, ⟨_, rfl, rfl⟩ | ⟨us, exponent, rfl, second, rfl⟩⟩
  · rcases same _ _ first with ⟨before, split, derivation⟩
    exact ⟨before, split, .base derivation⟩
  · have fewer : us.length < ts.length := Nat.lt_of_succ_lt (Step.rest_lt first)
    rcases same _ _ first with ⟨before, rfl, left⟩
    rcases shorter us fewer _ _ second with ⟨after, rfl, right⟩
    exact ⟨_, by simp, .raised left right⟩

/-- The loop over the operators of a level extends an operation that has been read already. -/
theorem continuation_sound {level : Level} {ts : List Token}
    (operands : ∀ us, us.length < ts.length → Sound (operandPhrase level) us) {left e : Expr}
    {rest : List Token} (read : Continues level left ts e rest) :
    ∃ us, ts = us ++ rest ∧
      ∀ before, Derives (.operation level) before left →
        Derives (.operation level) (before ++ us) e := by
  induction size : ts.length using Nat.strongRecOn generalizing ts left with
  | ind n loop =>
    rcases Parser.continues_iff.mp read with
      ⟨_, rfl, rfl⟩ | ⟨t, us, operator, right, middle, rfl, found, first, second⟩
    · exact ⟨[], rfl, fun before derivation => by rwa [List.append_nil]⟩
    · have operandRead := reads_operandPhrase_iff.mpr first
      have fewer : middle.length < (t :: us).length := Nat.lt_succ_of_lt operandRead.rest_lt
      rcases operator?_eq_some_iff.mp found with ⟨symbol, rfl, listed⟩
      rcases loop _ (size ▸ fewer) (fun vs shorter => operands vs (Nat.lt_trans shorter fewer))
        second rfl with ⟨later, rfl, extend⟩
      rcases operands us (Nat.lt_succ_self _) _ _ operandRead with ⟨operand, rfl, derivation⟩
      refine ⟨.symbol symbol :: operand ++ later, by simp, fun before derived => ?_⟩
      have longer := extend _ (.combined listed derived derivation)
      rwa [List.append_assoc] at longer

theorem operation_sound {level : Level} {ts : List Token} (same : Sound (operandPhrase level) ts)
    (shorter : ∀ us, us.length < ts.length → Sound (operandPhrase level) us) :
    Sound (.operation level) ts := by
  intro e rest read
  rcases Parser.operation_eq_ok_iff.mp read with ⟨left, middle, first, second⟩
  have operandRead := reads_operandPhrase_iff.mpr first
  have fewer : middle.length < ts.length := operandRead.rest_lt
  rcases continuation_sound (fun us isShorter => shorter us (Nat.lt_trans isShorter fewer)) second
    with ⟨later, rfl, extend⟩
  rcases same _ _ operandRead with ⟨before, rfl, derivation⟩
  exact ⟨before ++ later, by simp, extend _ (.operand derivation)⟩

/-! ## Conditions -/

theorem range_sound {ts : List Token}
    (shorter : ∀ us, us.length < ts.length → Sound .primary us) : Sound .range ts := by
  rintro e rest ⟨symbol, included, inner, rfl, opens, read⟩
  rcases Parser.range_eq_ok_iff.mp read with
    ⟨lower, upper, us, closing, upperIncluded, first, second, closes, rfl⟩
  have fewer : us.length < inner.length := Nat.lt_of_succ_lt (Step.rest_lt first)
  rcases shorter inner (Nat.lt_succ_self _) _ _ first with ⟨before, rfl, left⟩
  rcases shorter us (Nat.lt_succ_of_lt fewer) _ _ second with ⟨after, rfl, right⟩
  exact ⟨_, by simp, .bounds opens left right closes⟩

theorem alternative_sound {ts : List Token} (ranges : Sound .range ts)
    (values : Sound valuePhrase ts)
    (shorterValues : ∀ us, us.length < ts.length → Sound valuePhrase us)
    (shorter : ∀ us, us.length < ts.length → Sound .alternatives us) : Sound .alternative ts := by
  intro e rest read
  rcases Parser.alternative_eq_ok_iff.mp read with
    ⟨us, rfl, inside⟩ | ⟨us, rfl, _, inside⟩ | ⟨us, negated, rfl, inside, rfl⟩ | ⟨_, _, _, plain⟩
  · rcases ranges _ _ ⟨_, _, _, rfl, .included, inside⟩ with ⟨before, split, derivation⟩
    exact ⟨before, split, .range derivation⟩
  · rcases ranges _ _ ⟨_, _, _, rfl, .excluded, inside⟩ with ⟨before, split, derivation⟩
    exact ⟨before, split, .range derivation⟩
  · rcases shorter us (Nat.lt_succ_of_lt (Nat.lt_succ_self _)) _ _ inside with ⟨before, rfl, derivation⟩
    exact ⟨_, by simp, .negation derivation⟩
  · rcases Parser.comparison_eq_ok_iff.mp plain with
      ⟨symbol, operator, us, operand, rfl, listed, inside, rfl⟩ | ⟨_, inside⟩
    · rcases shorterValues us (Nat.lt_succ_self _) _ _ inside with ⟨before, rfl, derivation⟩
      exact ⟨_, rfl, .comparison listed derivation⟩
    · rcases values _ _ inside with ⟨before, split, derivation⟩
      exact ⟨before, split, .value derivation⟩

theorem alternatives_sound {ts : List Token} (same : Sound .alternative ts)
    (shorter : ∀ us, us.length < ts.length → Sound .alternatives us) : Sound .alternatives ts := by
  intro e rest read
  rcases Parser.alternatives_eq_ok_iff.mp read with
    ⟨head, middle, first, ⟨_, rfl, rfl⟩ | ⟨us, tail, rfl, second, rfl⟩⟩
  · rcases same _ _ first with ⟨before, split, derivation⟩
    exact ⟨before, split, .single derivation⟩
  · have fewer : us.length < ts.length := Nat.lt_of_succ_lt (Step.rest_lt first)
    rcases same _ _ first with ⟨before, rfl, left⟩
    rcases shorter us fewer _ _ second with ⟨after, rfl, right⟩
    exact ⟨_, by simp, .several left right⟩

/-! ## All readers together -/

/-- Whatever a reader takes from the front of some tokens has a derivation with the tree that it
returns. -/
theorem sound : ∀ (p : Phrase) (ts : List Token), Sound p ts
  | .primary, ts => primary_sound fun us _ => sound valuePhrase us
  | .power, ts => power_sound (sound .primary ts) fun us _ => sound .power us
  | .operation level, ts =>
    have _tighter := looseness_operandPhrase level
    operation_sound (sound (operandPhrase level) ts) fun us _ => sound (operandPhrase level) us
  | .range, ts => range_sound fun us _ => sound .primary us
  | .alternative, ts =>
    alternative_sound (sound .range ts) (sound valuePhrase ts) (fun us _ => sound valuePhrase us)
      fun us _ => sound .alternatives us
  | .alternatives, ts => alternatives_sound (sound .alternative ts) fun us _ => sound .alternatives us
termination_by p ts => (ts.length, p.looseness)
decreasing_by
  all_goals first
    | exact Prod.Lex.left _ _ ‹_›
    | exact Prod.Lex.right _ ‹_›
    | exact Prod.Lex.right _ (by decide)

end Grammar
end CellCheck
