import CellCheck.Proofs.Grammar.Soundness

/-!
# Where a reader stops

A reader goes forward only.  When it succeeds, what it leaves are the last of the tokens that it was
given, and when it fails, the places that it reports lie among these tokens.  This holds although an
opening parenthesis makes the parser read a bound only to see what comes after it, because this
reading ahead has no effect on the place where the parser stands.

`ParseFailure.Among` lists the failures that are possible among some tokens.  A failure that names a
token is anchored at this token, and the only failure whose two places differ is the one about
the bound of a range.
-/

namespace CellCheck

open CellCheck.Parser (Level Step)

/-! ## Failures among some tokens -/

/-- The failures that are possible somewhere among some tokens. -/
inductive ParseFailure.Among (ts : List Token) : ParseFailure → Prop
  | unexpected {place : List Token} (inside : place <:+ ts) : Among ts (.unexpected place)
  | expected (wanted : Wanted) {place : List Token} (inside : place <:+ ts) :
      Among ts (.expected wanted place)
  | unterminated {after : List Token} (inside : .unterminatedString :: after <:+ ts) :
      Among ts (.here .unterminatedString (.unterminatedString :: after))
  | outOfRange {negative : Bool} {text : String} {after : List Token}
      (inside : .number text :: after <:+ ts) :
      Among ts (.here (.integerOutOfRange ((if negative then "-" else "") ++ text))
        (.number text :: after))
  | invalidDate {text : String} {problem : DateTime.Problem} {after : List Token}
      (inside : .string text :: after <:+ ts) :
      Among ts (.here (.invalidDate text problem) (.string text :: after))
  | bound {place last : List Token} (inside : place <:+ ts) (later : last <:+ place) :
      Among ts ⟨.boundNotAtom, place, last⟩

namespace ParseFailure.Among

variable {ts us : List Token} {failure : ParseFailure}

/-- A failure among the last of some tokens is one among all of them. -/
theorem mono (among : Among us failure) (suffix : us <:+ ts) : Among ts failure := by
  cases among with
  | unexpected inside => exact .unexpected (inside.trans suffix)
  | expected wanted inside => exact .expected wanted (inside.trans suffix)
  | unterminated inside => exact .unterminated (inside.trans suffix)
  | outOfRange inside => exact .outOfRange (inside.trans suffix)
  | invalidDate inside => exact .invalidDate (inside.trans suffix)
  | bound inside later => exact .bound (inside.trans suffix) later

/-- The place where the parser stood lies among the tokens. -/
theorem stoppedAt_suffix (among : Among ts failure) : failure.stoppedAt <:+ ts := by
  cases among with
  | unexpected inside => exact inside
  | expected wanted inside => exact inside
  | unterminated inside => exact inside
  | outOfRange inside => exact inside
  | invalidDate inside => exact inside
  | bound inside later => exact later.trans inside

end ParseFailure.Among

/-- A reader of some tokens stays among them: it leaves the last of them, or fails somewhere among
them. -/
def StaysAmong {α : Type} {p : List Token → Prop} (ts : List Token) :
    Except ParseFailure (α × Subtype p) → Prop
  | .error failure => failure.Among ts
  | .ok (_, rest) => rest.val <:+ ts

/-! ## Combinations of readers -/

namespace StaysAmong

variable {α β : Type} {ts : List Token}

theorem andThen {first : Step α ts} {second : α → (rest : Fewer ts) → Step β rest.val}
    (before : StaysAmong ts first) (later : ∀ a rest, StaysAmong rest.val (second a rest)) :
    StaysAmong ts (first.andThen second) := by
  match first with
  | .error failure => exact before
  | .ok (a, rest) =>
    have stays := later a rest
    simp only [Step.andThen]
    cases result : second a rest with
    | error failure =>
      rw [result] at stays
      exact stays.mono before
    | ok found =>
      rw [result] at stays
      exact List.IsSuffix.trans stays before

theorem map {f : α → β} {step : Step α ts} (stays : StaysAmong ts step) :
    StaysAmong ts (step.map f) := by
  match step with
  | .error failure => exact stays
  | .ok (a, rest) => exact stays

theorem after {t : Token} {step : Step α ts} (stays : StaysAmong ts step) :
    StaysAmong (t :: ts) (step.after t) := by
  match step with
  | .error failure => exact ParseFailure.Among.mono stays (List.suffix_cons t ts)
  | .ok (a, rest) => exact List.IsSuffix.trans stays (List.suffix_cons t ts)

end StaysAmong

namespace Parser

variable {ts : List Token}

theorem suffix_of_skip? {wanted : Symbol} {fewer : Fewer ts} (found : skip? wanted ts = some fewer) :
    fewer.val <:+ ts :=
  ⟨[.symbol wanted], (skip?_eq_some_iff.mp found).symm⟩

theorem expect_staysAmong (wanted : Symbol) (ts : List Token) : StaysAmong ts (expect wanted ts) := by
  unfold expect
  split
  · next rest found => exact suffix_of_skip? found
  · exact .expected _ (List.suffix_refl ts)

/-- If both readers stay among their tokens, so does the one that reads the second after a
separator. -/
theorem joined_staysAmong {separator : Symbol} {join : Expr → Expr → Expr} {first : Step Expr ts}
    {others : (us : List Token) → Step Expr us} (before : StaysAmong ts first)
    (later : ∀ us, us.length < ts.length → StaysAmong us (others us)) :
    StaysAmong ts (joined separator join first others) := by
  unfold joined
  match first with
  | .error failure => exact before
  | .ok (a, fewer) =>
    have left : fewer.val <:+ ts := before
    simp only
    split
    · exact left
    · next after found =>
      have inside : after.val <:+ ts := (suffix_of_skip? found).trans left
      have stays := later after.val (Nat.lt_trans after.property fewer.property)
      split
      · next failure failed =>
        rw [failed] at stays
        exact stays.mono inside
      · next b last read =>
        rw [read] at stays
        exact List.IsSuffix.trans stays inside

/-! ## Atoms -/

theorem number_staysAmong (negative : Bool) (text : String) (rest : List Token) :
    StaysAmong (.number text :: rest) (number negative text rest) := by
  unfold number
  split
  · exact List.suffix_cons _ _
  · next problem unread =>
    have outOfRange : problem = .integerOutOfRange ((if negative then "-" else "") ++ text) := by
      simp only [numberAtom] at unread
      split at unread
      · cases unread
      · split at unread
        · cases unread
        · exact (Except.error.inj unread).symm
    rw [outOfRange]
    exact .outOfRange (List.suffix_refl _)

theorem dateArgument_staysAmong (ts : List Token) : StaysAmong ts (dateArgument ts) := by
  unfold dateArgument
  split
  · split
    · exact .invalidDate (List.suffix_refl _)
    · exact (expect_staysAmong _ _).map.after
  · exact .expected _ (List.suffix_refl _)

theorem atom_staysAmong (ts : List Token) : StaysAmong ts (atom ts) := by
  unfold atom
  split
  · exact number_staysAmong _ _ _
  · exact (number_staysAmong _ _ _).after
  · exact .expected _ (List.suffix_cons _ _)
  · exact List.suffix_cons _ _
  · exact List.suffix_cons _ _
  · exact List.suffix_cons _ _
  · next name rest =>
    split
    · exact List.suffix_cons _ _
    · next argument found =>
      have inside : argument.val <:+ .identifier name :: rest :=
        ⟨[_, _, _, _], (Grammar.afterDateCall?_eq_some_iff.mp found).symm⟩
      have stays := dateArgument_staysAmong argument.val
      split
      · next failure failed =>
        rw [failed] at stays
        exact stays.mono inside
      · next value last read =>
        rw [read] at stays
        exact List.IsSuffix.trans stays inside
  · exact .unterminated (List.suffix_refl _)
  · exact .unexpected (List.suffix_refl _)

/-! ## Values

What a reader needs of another one is a hypothesis here, about the same tokens or about fewer.  The
theorems at the end of this part put the steps together, with the measure of the readers. -/

theorem primary_staysAmong_of
    (inside : ∀ us, us.length < ts.length → StaysAmong us (operation .disjunctive us)) :
    StaysAmong ts (primary ts) := by
  rw [primary.eq_def]
  split
  · next inner =>
    apply StaysAmong.after
    apply (inside inner (Nat.lt_succ_self _)).andThen
    intro e rest
    exact (expect_staysAmong _ _).map
  · exact (atom_staysAmong _).map

theorem power_staysAmong_of (same : StaysAmong ts (primary ts))
    (shorter : ∀ us, us.length < ts.length → StaysAmong us (power us)) :
    StaysAmong ts (power ts) := by
  rw [power_eq_joined]
  exact joined_staysAmong same shorter

theorem operand_staysAmong_of {level : Level}
    (tighter : ∀ next, level.tighter? = some next → StaysAmong ts (operation next ts))
    (tightest : StaysAmong ts (power ts)) : StaysAmong ts (operand level ts) := by
  rw [operand]
  split
  · next next isTighter => exact tighter next isTighter
  · exact tightest

/-- The loop over the operators of a level stays among the tokens if the reader of the operands
does. -/
theorem continuation_staysAmong_of {level : Level} (left : Expr) {ts : List Token}
    (operands : ∀ us, us.length < ts.length → StaysAmong us (operand level us)) :
    StaysAmong ts (continuation level left ts) := by
  rw [continuation.eq_def]
  split
  · exact List.suffix_refl _
  · next t rest =>
    split
    · exact List.suffix_refl _
    · next operator found =>
      have first := operands rest (Nat.lt_succ_self _)
      split
      · next failure failed =>
        rw [failed] at first
        exact first.mono (List.suffix_cons t rest)
      · next right after read =>
        rw [read] at first
        have inside : after.val <:+ t :: rest := List.IsSuffix.trans first (List.suffix_cons t rest)
        have _fewer : after.val.length < (t :: rest).length := Nat.lt_succ_of_lt after.property
        have others := continuation_staysAmong_of (.binary left operator right)
          fun us shorter => operands us (Nat.lt_trans shorter _fewer)
        split
        · next failure failed =>
          rw [failed] at others
          exact others.mono inside
        · next e last readLast =>
          rw [readLast] at others
          exact List.IsSuffix.trans others inside
termination_by ts.length

theorem operation_staysAmong_of {level : Level} (same : StaysAmong ts (operand level ts))
    (shorter : ∀ us, us.length < ts.length → StaysAmong us (operand level us)) :
    StaysAmong ts (operation level ts) := by
  rw [operation]
  split
  · next failure failed =>
    rw [failed] at same
    exact same
  · next left rest read =>
    rw [read] at same
    have others := continuation_staysAmong_of left fun us isShorter =>
      shorter us (Nat.lt_trans isShorter rest.property)
    split
    · next failure failed =>
      rw [failed] at others
      exact others.mono same
    · next e last readLast =>
      rw [readLast] at others
      exact List.IsSuffix.trans others same

mutual

theorem primary_staysAmong (ts : List Token) : StaysAmong ts (primary ts) :=
  primary_staysAmong_of fun us _ => operation_staysAmong .disjunctive us
termination_by (ts.length, 0)
decreasing_by exact Prod.Lex.left _ _ ‹_›

theorem power_staysAmong (ts : List Token) : StaysAmong ts (power ts) :=
  power_staysAmong_of (primary_staysAmong ts) fun us _ => power_staysAmong us
termination_by (ts.length, 1)
decreasing_by
  · exact Prod.Lex.right _ (by decide)
  · exact Prod.Lex.left _ _ ‹_›

theorem operand_staysAmong (level : Level) (ts : List Token) : StaysAmong ts (operand level ts) :=
  operand_staysAmong_of (fun next _isTighter => operation_staysAmong next ts) (power_staysAmong ts)
termination_by (ts.length, 2 * level.rank + 2)
decreasing_by
  · exact Prod.Lex.right _ (by have := Level.rank_of_tighter? _isTighter; omega)
  · exact Prod.Lex.right _ (by omega)

theorem operation_staysAmong (level : Level) (ts : List Token) :
    StaysAmong ts (operation level ts) :=
  operation_staysAmong_of (operand_staysAmong level ts) fun us _ => operand_staysAmong level us
termination_by (ts.length, 2 * level.rank + 3)
decreasing_by
  · exact Prod.Lex.right _ (by omega)
  · exact Prod.Lex.left _ _ ‹_›

end

/-! ## Ranges -/

/-- A bound that is no atom is reported where it starts, after it has been read. -/
theorem bound_staysAmong (ts : List Token) : StaysAmong ts (bound ts) := by
  have stays := primary_staysAmong ts
  unfold bound
  split
  · next failure failed =>
    rw [failed] at stays
    exact stays
  · next a rest read =>
    rw [read] at stays
    exact stays
  · next other rest _ read =>
    rw [read] at stays
    exact .bound (List.suffix_refl ts) stays

theorem closingBracket_staysAmong (ts : List Token) : StaysAmong ts (closingBracket ts) := by
  unfold closingBracket
  split
  · next rest found => exact suffix_of_skip? found
  · split
    · next rest found => exact suffix_of_skip? found
    · exact .expected _ (List.suffix_refl ts)

theorem range_staysAmong (lowerIncluded : Bool) (ts : List Token) :
    StaysAmong ts (range lowerIncluded ts) := by
  apply (bound_staysAmong ts).andThen
  intro lower afterLower
  apply (expect_staysAmong .dots _).andThen
  intro _ afterDots
  apply (bound_staysAmong _).andThen
  intro upper afterUpper
  exact (closingBracket_staysAmong _).map

/-! ## Alternatives -/

theorem comparison_staysAmong (ts : List Token) : StaysAmong ts (comparison ts) := by
  unfold comparison
  split
  · exact operation_staysAmong _ _
  · split
    · exact operation_staysAmong _ _
    · exact (operation_staysAmong _ _).map.after

theorem alternative_staysAmong_of
    (shorter : ∀ us, us.length < ts.length → StaysAmong us (alternatives us)) :
    StaysAmong ts (alternative ts) := by
  rw [alternative.eq_def]
  split
  · exact (range_staysAmong _ _).after
  · split
    · exact (range_staysAmong _ _).after
    · exact comparison_staysAmong _
  · next rest =>
    apply StaysAmong.after
    apply (expect_staysAmong .leftParen rest).andThen
    intro _ inner
    apply (shorter inner.val (Nat.lt_succ_of_lt inner.property)).andThen
    intro negated afterNegated
    exact (expect_staysAmong _ _).map
  · exact comparison_staysAmong _

theorem alternatives_staysAmong (ts : List Token) : StaysAmong ts (alternatives ts) := by
  have shorter : ∀ us, us.length < ts.length → StaysAmong us (alternatives us) :=
    fun us _ => alternatives_staysAmong us
  rw [alternatives_eq_joined]
  exact joined_staysAmong (alternative_staysAmong_of shorter) shorter
termination_by ts.length

/-! ## Whole lists of tokens -/

/-- A failure to read a whole list of tokens is one among these tokens. -/
theorem among_of_complete_eq_error {failure : ParseFailure} (failed : complete ts = .error failure) :
    failure.Among ts := by
  have stays := alternatives_staysAmong ts
  unfold complete at failed
  cases result : alternatives ts with
  | error other =>
    rw [result] at failed stays
    cases failed
    exact stays
  | ok found =>
    rw [result, Step.run] at failed
    rw [result] at stays
    split at failed
    · next other impossible => cases impossible
    · cases failed
    · next rest notNil read =>
      cases read
      cases failed
      exact .unexpected stays

theorem complete_nil : complete [] = .error (.unexpected []) := by
  simp [complete, alternatives, alternative, comparison, value, operation, operand, power, primary,
    atom, Level.tighter?, Step.map, Step.run]

end Parser
end CellCheck
