import CellCheck.Proofs.Grammar.Basic

/-!
# What a reader does when it succeeds

The readers return the rest of the tokens with the evidence that it is shorter.  This evidence is
needed once, for the recursion to end, and is in the way afterwards.  The statements here forget
it: each says when a reader succeeds, with which result and which rest, in terms of the readers that
it calls.  Nothing in the later modules looks into the body of a reader.
-/

namespace CellCheck
namespace Parser

variable {α β : Type} {ts rest : List Token} {e : Expr}

/-! ## Combinations of readers -/

theorem Step.run_ok (a : α) (fewer : Fewer ts) : Step.run (.ok (a, fewer)) = .ok (a, fewer.val) :=
  rfl

theorem Step.run_eq_ok_iff {step : Step α ts} {a : α} :
    step.run = .ok (a, rest) ↔ ∃ shorter, step = .ok (a, ⟨rest, shorter⟩) := by
  constructor
  · intro read
    match step with
    | .error failure => cases read
    | .ok (_, ⟨_, shorter⟩) =>
      cases read
      exact ⟨shorter, rfl⟩
  · rintro ⟨shorter, rfl⟩
    rfl

theorem Step.rest_lt {step : Step α ts} {a : α} (read : step.run = .ok (a, rest)) :
    rest.length < ts.length := by
  rcases Step.run_eq_ok_iff.mp read with ⟨shorter, _⟩
  exact shorter

theorem Step.andThen_eq_ok_iff {first : Step α ts} {second : α → (rest : Fewer ts) → Step β rest.val}
    {b : β} :
    (first.andThen second).run = .ok (b, rest) ↔
      ∃ a, ∃ middle : Fewer ts,
        first.run = .ok (a, middle.val) ∧ (second a middle).run = .ok (b, rest) := by
  constructor
  · intro read
    match first with
    | .error failure => cases read
    | .ok (a, middle) =>
      refine ⟨a, middle, rfl, ?_⟩
      unfold Step.andThen at read
      cases later : second a middle with
      | error failure => simp only [later, Step.run, reduceCtorEq] at read
      | ok result =>
        simp only [later, Step.run] at read
        exact read
  · rintro ⟨a, middle, before, after⟩
    rcases Step.run_eq_ok_iff.mp before with ⟨_, rfl⟩
    rcases Step.run_eq_ok_iff.mp after with ⟨shorter, same⟩
    simp only [Step.andThen, same, Step.run]
    rfl

theorem Step.map_eq_ok_iff {f : α → β} {step : Step α ts} {b : β} :
    (step.map f).run = .ok (b, rest) ↔ ∃ a, step.run = .ok (a, rest) ∧ f a = b := by
  match step with
  | .error failure => simp [Step.map, Step.run]
  | .ok (a, middle) =>
    simp only [Step.map, Step.run, Except.ok.injEq, Prod.mk.injEq]
    constructor
    · rintro ⟨rfl, rfl⟩
      exact ⟨a, ⟨rfl, rfl⟩, rfl⟩
    · rintro ⟨_, ⟨rfl, rfl⟩, rfl⟩
      exact ⟨rfl, rfl⟩

theorem Step.after_eq_ok_iff {t : Token} {step : Step α ts} {a : α} :
    (step.after t).run = .ok (a, rest) ↔ step.run = .ok (a, rest) := by
  match step with
  | .error failure => rfl
  | .ok (a, middle) => rfl

theorem skip?_eq_some_iff {wanted : Symbol} {fewer : Fewer ts} :
    skip? wanted ts = some fewer ↔ ts = .symbol wanted :: fewer.val := by
  unfold skip?
  split
  · next t others =>
    split
    · next same =>
      rw [Option.some.injEq, same]
      constructor
      · rintro rfl
        rfl
      · intro equal
        exact Subtype.ext (List.cons.inj equal).2
    · next different =>
      simp only [reduceCtorEq, false_iff]
      intro equal
      exact different (List.cons.inj equal).1
  · simp

theorem skip?_eq_none_iff {wanted : Symbol} :
    skip? wanted ts = none ↔ ts.head? ≠ some (.symbol wanted) := by
  unfold skip?
  split <;> simp

theorem skip?_cons_self (wanted : Symbol) :
    skip? wanted (.symbol wanted :: ts) = some (Fewer.tail (.symbol wanted) ts) :=
  skip?_eq_some_iff.mpr rfl

theorem expect_eq_ok_iff {wanted : Symbol} :
    (expect wanted ts).run = .ok ((), rest) ↔ ts = .symbol wanted :: rest := by
  unfold expect
  split
  · next fewer found =>
    rw [skip?_eq_some_iff] at found
    simp only [Step.run, Except.ok.injEq, Prod.mk.injEq, true_and, found, List.cons.injEq]
  · next absent =>
    simp only [Step.run, reduceCtorEq, false_iff]
    rintro rfl
    rw [skip?_cons_self] at absent
    cases absent

theorem take_eq_ok_iff {value a : α} {t : Token} :
    (take value t ts).run = .ok (a, rest) ↔ value = a ∧ ts = rest := by
  simp [take, Step.run, Fewer.tail]

/-! ## Values -/

/-- What reading the operators of a level gives, once their first operand has been read. -/
def Continues (level : Level) (left : Expr) (ts : List Token) (e : Expr) (rest : List Token) :
    Prop :=
  ∃ shorter, continuation level left ts = .ok (e, ⟨rest, shorter⟩)

theorem primary_eq_ok_iff :
    (primary ts).run = .ok (e, rest) ↔
      (∃ inner, ts = .symbol .leftParen :: inner ∧
        (operation .disjunctive inner).run = .ok (e, .symbol .rightParen :: rest)) ∨
      ∃ a, (atom ts).run = .ok (a, rest) ∧ e = .atom a := by
  rw [primary.eq_def]
  split
  · next inner =>
    have noAtom : ∀ a, (atom (.symbol .leftParen :: inner)).run ≠ .ok (a, rest) := by
      intro a read
      cases read
    simp only [Step.after_eq_ok_iff, Step.andThen_eq_ok_iff, Step.map_eq_ok_iff, noAtom,
      false_and, exists_false, or_false]
    constructor
    · rintro ⟨a, middle, inside, ⟨_, closed, rfl⟩⟩
      rw [expect_eq_ok_iff] at closed
      exact ⟨inner, rfl, closed ▸ inside⟩
    · rintro ⟨_, same, inside⟩
      rcases List.cons.inj same with ⟨_, rfl⟩
      exact ⟨e, ⟨_, Step.rest_lt inside⟩, inside, (), expect_eq_ok_iff.mpr rfl, rfl⟩
  · next others noParen =>
    rw [Step.map_eq_ok_iff]
    constructor
    · rintro ⟨a, read, rfl⟩
      exact Or.inr ⟨a, read, rfl⟩
    · rintro (⟨inner, same, _⟩ | ⟨a, read, rfl⟩)
      · exact absurd same (noParen inner)
      · exact ⟨a, read, rfl⟩

/-- A reader, and after a separator another one whose result is put to the right.  A power and a list
of alternatives are both read in this way. -/
def joined (separator : Symbol) (join : Expr → Expr → Expr) (first : Step Expr ts)
    (others : (us : List Token) → Step Expr us) : Step Expr ts :=
  match first with
  | .error failure => .error failure
  | .ok (a, fewer) =>
    match skip? separator fewer.val with
    | none => .ok (a, fewer)
    | some after =>
      match others after.val with
      | .error failure => .error failure
      | .ok (b, last) => .ok (join a b, fewer.trans (after.trans last))

theorem joined_eq_ok_iff {separator : Symbol} {join : Expr → Expr → Expr} {first : Step Expr ts}
    {others : (us : List Token) → Step Expr us} :
    (joined separator join first others).run = .ok (e, rest) ↔
      ∃ a middle, first.run = .ok (a, middle) ∧
        ((middle.head? ≠ some (.symbol separator) ∧ e = a ∧ rest = middle) ∨
          ∃ us b, middle = .symbol separator :: us ∧
            (others us).run = .ok (b, rest) ∧ e = join a b) := by
  unfold joined
  split
  · simp [Step.run]
  · next a fewer =>
    simp only [Step.run_ok, Except.ok.injEq, Prod.mk.injEq]
    split
    · next absent =>
      rw [skip?_eq_none_iff] at absent
      constructor
      · intro read
        cases read
        exact ⟨e, fewer.val, ⟨rfl, rfl⟩, Or.inl ⟨absent, rfl, rfl⟩⟩
      · rintro ⟨_, _, ⟨rfl, rfl⟩, ⟨_, rfl, rfl⟩ | ⟨us, b, found, _⟩⟩
        · rfl
        · rw [found] at absent
          exact absurd rfl absent
    · next after found =>
      rw [skip?_eq_some_iff] at found
      constructor
      · intro read
        split at read
        · cases read
        · next b last second =>
          cases read
          refine ⟨a, fewer.val, ⟨rfl, rfl⟩, Or.inr ⟨after.val, b, found, ?_, rfl⟩⟩
          rw [second]
          rfl
      · rintro ⟨_, _, ⟨rfl, rfl⟩, ⟨different, _⟩ | ⟨us, b, same, second, rfl⟩⟩
        · rw [found] at different
          exact absurd rfl different
        · rw [found] at same
          rcases List.cons.inj same with ⟨_, rfl⟩
          rcases Step.run_eq_ok_iff.mp second with ⟨shorter, equal⟩
          rw [equal]
          rfl

/-- A power is a primary, and after two stars another power. -/
theorem power_eq_joined (ts : List Token) :
    power ts = joined .starStar (Expr.binary · .exp ·) (primary ts) power := by
  rw [power.eq_def]
  rfl

theorem power_eq_ok_iff :
    (power ts).run = .ok (e, rest) ↔
      ∃ base middle, (primary ts).run = .ok (base, middle) ∧
        ((middle.head? ≠ some (.symbol .starStar) ∧ e = base ∧ rest = middle) ∨
          ∃ us exponent, middle = .symbol .starStar :: us ∧
            (power us).run = .ok (exponent, rest) ∧ e = .binary base .exp exponent) := by
  rw [power_eq_joined, joined_eq_ok_iff]

theorem operand_tighter (level next : Level) (isTighter : level.tighter? = some next) :
    (operand level ts).run = (operation next ts).run := by
  rw [operand]
  split
  · next other found =>
    rw [isTighter, Option.some.injEq] at found
    rw [found]
  · next absent =>
    rw [isTighter] at absent
    cases absent

theorem operand_tightest : (operand .multiplicative ts).run = (power ts).run := by
  rw [operand]
  split
  · next other found => cases found
  · rfl

theorem operation_eq_ok_iff {level : Level} :
    (operation level ts).run = .ok (e, rest) ↔
      ∃ left middle, (operand level ts).run = .ok (left, middle) ∧
        Continues level left middle e rest := by
  rw [operation]
  split
  · next failure failed => simp [failed, Step.run]
  · next left fewer first =>
    have before : (operand level ts).run = .ok (left, fewer.val) := by rw [first]; rfl
    simp only [before, Except.ok.injEq, Prod.mk.injEq]
    constructor
    · intro read
      split at read
      · cases read
      · next other last second =>
        cases read
        exact ⟨left, fewer.val, ⟨rfl, rfl⟩, last.property, second⟩
    · rintro ⟨_, _, ⟨rfl, rfl⟩, _, second⟩
      rw [second]
      rfl

theorem continues_iff {level : Level} {left : Expr} :
    Continues level left ts e rest ↔
      ((∀ t, ts.head? = some t → level.operator? t = none) ∧ e = left ∧ rest = ts) ∨
        ∃ t us operator right middle, ts = t :: us ∧ level.operator? t = some operator ∧
          (operand level us).run = .ok (right, middle) ∧
          Continues level (.binary left operator right) middle e rest := by
  unfold Continues
  rw [continuation.eq_def]
  split
  · simp [eq_comm]
  · next t us =>
    split
    · next absent =>
      simp only [List.head?_cons, Option.some.injEq, forall_eq', absent, true_and]
      constructor
      · rintro ⟨_, read⟩
        cases read
        exact Or.inl ⟨rfl, rfl⟩
      · rintro (⟨rfl, rfl⟩ | ⟨_, _, _, _, _, same, found, _⟩)
        · exact ⟨Nat.le_refl _, rfl⟩
        · rw [← (List.cons.inj same).1, absent] at found
          cases found
    · next operator found =>
      simp only [List.head?_cons, Option.some.injEq, forall_eq', found, reduceCtorEq, false_and,
        false_or, List.cons.injEq]
      constructor
      · rintro ⟨shorter, read⟩
        split at read
        · cases read
        · next right fewer first =>
          split at read
          · cases read
          · next other last second =>
            cases read
            refine ⟨t, us, operator, right, fewer.val, ⟨rfl, rfl⟩, found, ?_, last.property, second⟩
            rw [first]
            rfl
      · rintro ⟨_, _, _, right, middle, ⟨rfl, rfl⟩, same, first, shorter, second⟩
        rw [found, Option.some.injEq] at same
        subst same
        rcases Step.run_eq_ok_iff.mp first with ⟨fewer, equal⟩
        refine ⟨?_, ?_⟩
        · simp only [List.length_cons]
          omega
        · simp only [equal, second]

/-! ## Ranges -/

theorem bound_eq_ok_iff {a : Atom} :
    (bound ts).run = .ok (a, rest) ↔ (primary ts).run = .ok (.atom a, rest) := by
  unfold bound
  split
  · next failure failed => simp [failed, Step.run]
  · next b fewer read => simp [read, Step.run]
  · next other fewer noAtom read =>
    simp only [read, Step.run, reduceCtorEq, Except.ok.injEq, Prod.mk.injEq, false_iff, not_and]
    intro same
    exact absurd same (noAtom a)

theorem rangeAhead_iff :
    rangeAhead ts = true ↔ ∃ a us, (primary ts).run = .ok (.atom a, .symbol .dots :: us) := by
  unfold rangeAhead
  split
  · next a fewer read =>
    have first : (bound ts).run = .ok (a, fewer.val) := by rw [read]; rfl
    rw [bound_eq_ok_iff] at first
    simp only [first, Option.isSome_iff_exists, skip?_eq_some_iff, Except.ok.injEq, Prod.mk.injEq]
    constructor
    · rintro ⟨after, found⟩
      exact ⟨a, after.val, rfl, found⟩
    · rintro ⟨_, us, _, found⟩
      exact ⟨⟨us, by simp [found]⟩, found⟩
  · next failure failed =>
    simp only [Bool.false_eq_true, false_iff, not_exists, ← bound_eq_ok_iff, failed]
    intro a us read
    cases read

theorem closingBracket_eq_ok_iff {included : Bool} :
    (closingBracket ts).run = .ok (included, rest) ↔
      ∃ symbol, ts = .symbol symbol :: rest ∧ Grammar.ClosingBracket symbol included := by
  unfold closingBracket
  constructor
  · intro read
    split at read
    · next fewer found =>
      cases read
      exact ⟨.rightBracket, skip?_eq_some_iff.mp found, .included⟩
    · split at read
      · next fewer found =>
        cases read
        exact ⟨.rightParen, skip?_eq_some_iff.mp found, .excluded⟩
      · cases read
  · rintro ⟨symbol, rfl, closes⟩
    cases closes <;> rfl

theorem range_eq_ok_iff {lowerIncluded : Bool} :
    (range lowerIncluded ts).run = .ok (e, rest) ↔
      ∃ lower upper us symbol upperIncluded,
        (primary ts).run = .ok (.atom lower, .symbol .dots :: us) ∧
        (primary us).run = .ok (.atom upper, .symbol symbol :: rest) ∧
        Grammar.ClosingBracket symbol upperIncluded ∧
        e = .range lowerIncluded (.atom lower) (.atom upper) upperIncluded := by
  simp only [range, Step.andThen_eq_ok_iff, Step.map_eq_ok_iff]
  constructor
  · rintro ⟨lower, afterLower, first, _, afterDots, dots, upper, afterUpper, second, upperIncluded,
      closed, rfl⟩
    rcases closingBracket_eq_ok_iff.mp closed with ⟨symbol, found, closes⟩
    rw [expect_eq_ok_iff.mp dots] at first
    rw [found] at second
    exact ⟨lower, upper, afterDots.val, symbol, upperIncluded, bound_eq_ok_iff.mp first,
      bound_eq_ok_iff.mp second, closes, rfl⟩
  · rintro ⟨lower, upper, us, symbol, upperIncluded, first, second, closes, rfl⟩
    exact ⟨lower, ⟨_, Step.rest_lt first⟩, bound_eq_ok_iff.mpr first, (),
      ⟨us, Nat.lt_succ_self _⟩, expect_eq_ok_iff.mpr rfl, upper, ⟨_, Step.rest_lt second⟩,
      bound_eq_ok_iff.mpr second, upperIncluded, closingBracket_eq_ok_iff.mpr ⟨symbol, rfl, closes⟩,
      rfl⟩

/-! ## Alternatives -/

theorem comparison_eq_ok_iff :
    (comparison ts).run = .ok (e, rest) ↔
      (∃ symbol operator us operand, ts = .symbol symbol :: us ∧
        Grammar.ComparisonOperator symbol operator ∧
        (operation .disjunctive us).run = .ok (operand, rest) ∧ e = .unary operator operand) ∨
      (∀ t, ts.head? = some t → comparison? t = none) ∧
        (operation .disjunctive ts).run = .ok (e, rest) := by
  unfold comparison value
  split
  · simp
  · next t us =>
    simp only [List.head?_cons, Option.some.injEq, forall_eq', List.cons.injEq]
    split
    · next absent =>
      simp only [absent, true_and]
      constructor
      · exact Or.inr
      · rintro (⟨symbol, operator, _, operand, ⟨rfl, rfl⟩, listed, _⟩ | read)
        · rw [Grammar.comparison?_eq_some_iff.mpr ⟨symbol, rfl, listed⟩] at absent
          cases absent
        · exact read
    · next operator found =>
      rw [Step.after_eq_ok_iff, Step.map_eq_ok_iff]
      constructor
      · rintro ⟨operand, read, rfl⟩
        rcases Grammar.comparison?_eq_some_iff.mp found with ⟨symbol, rfl, listed⟩
        exact Or.inl ⟨symbol, operator, us, operand, ⟨rfl, rfl⟩, listed, read, rfl⟩
      · rintro (⟨symbol, other, _, operand, ⟨rfl, rfl⟩, listed, read, rfl⟩ | ⟨absent, _⟩)
        · rw [Grammar.comparison?_eq_some_iff.mpr ⟨symbol, rfl, listed⟩] at found
          cases found
          exact ⟨operand, read, rfl⟩
        · rw [found] at absent
          cases absent

theorem alternative_eq_ok_iff :
    (alternative ts).run = .ok (e, rest) ↔
      (∃ us, ts = .symbol .leftBracket :: us ∧ (range true us).run = .ok (e, rest)) ∨
      (∃ us, ts = .symbol .leftParen :: us ∧ rangeAhead us = true ∧
        (range false us).run = .ok (e, rest)) ∨
      (∃ us negated, ts = .symbol .not :: .symbol .leftParen :: us ∧
        (alternatives us).run = .ok (negated, .symbol .rightParen :: rest) ∧
        e = .unary .not negated) ∨
      (ts.head? ≠ some (.symbol .leftBracket) ∧ ts.head? ≠ some (.symbol .not) ∧
        (∀ us, ts = .symbol .leftParen :: us → rangeAhead us = false) ∧
        (comparison ts).run = .ok (e, rest)) := by
  rw [alternative.eq_def]
  split
  · next us =>
    rw [Step.after_eq_ok_iff]
    simp
  · next us =>
    by_cases ahead : rangeAhead us = true
    · simp [ahead, Step.after_eq_ok_iff]
    · simp [ahead]
  · next us =>
    simp only [Step.after_eq_ok_iff, Step.andThen_eq_ok_iff, Step.map_eq_ok_iff]
    constructor
    · rintro ⟨_, inner, opened, negated, fewer, inside, _, closed, rfl⟩
      rw [expect_eq_ok_iff] at opened closed
      rw [closed] at inside
      exact Or.inr (Or.inr (Or.inl ⟨inner.val, negated, congrArg _ opened, inside, rfl⟩))
    · rintro (⟨_, same, _⟩ | ⟨_, same, _⟩ | ⟨inner, negated, same, inside, rfl⟩ | ⟨_, different, _⟩)
      · cases same
      · cases same
      · rcases List.cons.inj same with ⟨_, rfl⟩
        exact ⟨(), ⟨inner, Nat.lt_succ_self _⟩, expect_eq_ok_iff.mpr rfl, negated,
          ⟨_, Step.rest_lt inside⟩, inside, (), expect_eq_ok_iff.mpr rfl, rfl⟩
      · exact absurd rfl different
  · next ts noBracket noParen noNot =>
    constructor
    · intro read
      refine Or.inr (Or.inr (Or.inr ⟨?_, ?_, fun us equal => absurd equal (noParen us), read⟩))
      · rw [ne_eq, List.head?_eq_some_iff]
        exact not_exists.mpr noBracket
      · rw [ne_eq, List.head?_eq_some_iff]
        exact not_exists.mpr noNot
    · rintro (⟨us, equal, _⟩ | ⟨us, equal, _⟩ | ⟨us, _, equal, _⟩ | ⟨_, _, _, read⟩)
      · exact absurd equal (noBracket us)
      · exact absurd equal (noParen us)
      · exact absurd equal (noNot _)
      · exact read

theorem alternatives_eq_joined (ts : List Token) :
    alternatives ts = joined .comma Expr.disjunction (alternative ts) alternatives := by
  rw [alternatives.eq_def]
  rfl

theorem alternatives_eq_ok_iff :
    (alternatives ts).run = .ok (e, rest) ↔
      ∃ head middle, (alternative ts).run = .ok (head, middle) ∧
        ((middle.head? ≠ some (.symbol .comma) ∧ e = head ∧ rest = middle) ∨
          ∃ us tail, middle = .symbol .comma :: us ∧
            (alternatives us).run = .ok (tail, rest) ∧ e = .disjunction head tail) := by
  rw [alternatives_eq_joined, joined_eq_ok_iff]

/-- A whole list of tokens is read exactly if the alternatives take up all of it. -/
theorem complete_eq_ok_iff : complete ts = .ok e ↔ (alternatives ts).run = .ok (e, []) := by
  unfold complete
  split
  · next failure failed => simp [failed]
  · next read => simp [read]
  · next notAll read =>
    rw [read]
    simp only [reduceCtorEq, Except.ok.injEq, Prod.mk.injEq, false_iff, not_and]
    intro _ nothing
    exact notAll nothing

end Parser
end CellCheck
