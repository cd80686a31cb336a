import CellCheck.Proofs.Printing.RoundTrip
import CellCheck.Proofs.Subsumption.Meaning
import CellCheck.Validation.Validator
import Mathlib.Data.List.Forall2

/-!
# Shadowed rules

A rule that is reported as shadowed adds nothing: in every meaning of cells, an earlier rule matches
whatever the reported rule matches.  So the first rule that matches some values is never one that
has been reported.  Rules with a cell that is no expression match nothing and take no part.

The search compares each rule with the rules before it.  Its findings are described first, as a
relation between a rule and the part of the list in front of it, and only then in terms of places
in the table.
-/

namespace CellCheck

theorem Cell.parseAll_eq_ok_iff {texts : List String} {es : List Expr} :
    (parseAll texts).1 = .ok es ↔ List.Forall₂ (fun text e => parse text = .ok e) texts es := by
  induction texts generalizing es with
  | nil =>
    simp only [parseAll, Except.ok.injEq, List.forall₂_nil_left_iff]
    exact eq_comm
  | cons text texts ih =>
    rw [List.forall₂_cons_left_iff]
    simp only [parseAll]
    cases parse text with
    | error problem => simp
    | ok first =>
      cases others : (parseAll texts).1 with
      | error problem =>
        have unread : ∀ es, ¬ List.Forall₂ (fun text e => parse text = .ok e) texts es :=
          fun es => (@ih es).not.mp (by simp [others])
        simp only [Except.map]
        constructor
        · intro impossible
          cases impossible
        · rintro ⟨_, es, _, read, _⟩
          exact absurd read (unread es)
      | ok rest =>
        have read := (@ih rest).mp others
        simp only [Except.map, Except.ok.injEq]
        constructor
        · rintro rfl
          exact ⟨first, rest, rfl, read, rfl⟩
        · rintro ⟨_, es, rfl, readOthers, rfl⟩
          have same := ih.mpr readOthers
          rw [others, Except.ok.injEq] at same
          rw [same]

/-- A problem with another name for the rule that it names. -/
def Problem.relabel (f : NumberedRule → NumberedRule) : Problem → Problem
  | .entry problem => .entry problem
  | .shadowed earlier => .shadowed (f earlier)

def Finding.relabel (f : NumberedRule → NumberedRule) (finding : Finding) : Finding :=
  ⟨finding.problem.relabel f, f finding.about⟩

namespace Validator

def ParsedRule.relabel (f : NumberedRule → NumberedRule) (rule : ParsedRule) : ParsedRule :=
  { rule with numbered := f rule.numbered }

theorem parsedRule?_eq_some_iff {numbered : NumberedRule} {parsed : ParsedRule} :
    parsedRule? numbered = some parsed ↔
      parsed.numbered = numbered ∧
        (Cell.parseAll numbered.rule.inputEntries).1 = .ok parsed.inputs := by
  unfold parsedRule?
  rcases parsed with ⟨parsedNumbered, parsedInputs⟩
  split
  · next inputs read =>
    simp only [Option.some.injEq, ParsedRule.mk.injEq, read, Except.ok.injEq]
    exact and_congr_left' eq_comm
  · next problem failed => simp [failed]

/-- Whether a rule takes part does not depend on the other rules. -/
theorem filter_filterMap_parsedRule? (p : NumberedRule → Bool) (rules : List NumberedRule) :
    ((rules.filterMap parsedRule?).filter fun rule => p rule.numbered) =
      (rules.filter p).filterMap parsedRule? := by
  rw [List.filter_filterMap, List.filterMap_filter]
  congr 1
  funext numbered
  cases parsed : parsedRule? numbered with
  | none => simp
  | some rule =>
    rw [← (parsedRule?_eq_some_iff.mp parsed).1]
    cases selected : p rule.numbered <;> simp [Option.filter, selected]

/-- One rule shadows another if it subsumes it cell by cell. -/
theorem ParsedRule.shadows_iff {outer inner : ParsedRule} :
    outer.shadows inner = true ↔
      List.Forall₂ (fun x y => x.subsumes y = some true) outer.inputs inner.inputs := by
  simp only [shadows, Bool.and_eq_true, decide_eq_true_eq, List.all_eq_true, List.forall₂_iff_zip,
    Prod.forall]

/-- The findings are about the rules that some rule in front of them shadows, and name the first
one that does. -/
theorem mem_shadowFindings_iff {earlier rules : List ParsedRule} {finding : Finding} :
    finding ∈ shadowFindings earlier rules ↔
      ∃ before rule after outer, rules = before ++ rule :: after ∧
        (earlier ++ before).find? (fun outer => outer.shadows rule) = some outer ∧
        finding = ⟨.shadowed outer.numbered, rule.numbered⟩ := by
  induction rules generalizing earlier with
  | nil => simp [shadowFindings]
  | cons first later ih =>
    simp only [shadowFindings, List.mem_append, Option.mem_toList, Option.map_eq_some_iff, ih]
    constructor
    · rintro (⟨outer, found, rfl⟩ | ⟨before, rule, after, outer, rfl, found, rfl⟩)
      · exact ⟨[], first, later, outer, rfl, by rwa [List.append_nil], rfl⟩
      · refine ⟨first :: before, rule, after, outer, rfl, ?_, rfl⟩
        rwa [List.append_assoc] at found
    · rintro ⟨before, rule, after, outer, split, found, rfl⟩
      cases before with
      | nil =>
        cases split
        rw [List.append_nil] at found
        exact .inl ⟨outer, found, rfl⟩
      | cons _ before =>
        cases split
        refine .inr ⟨before, rule, after, outer, rfl, ?_, rfl⟩
        rwa [List.append_assoc]

/-- Whether a rule parses depends on its input cells only. -/
theorem parsedRule?_relabel {f : NumberedRule → NumberedRule} {numbered : NumberedRule}
    (sameCells : (f numbered).rule.inputEntries = numbered.rule.inputEntries) :
    parsedRule? (f numbered) = (parsedRule? numbered).map (ParsedRule.relabel f) := by
  unfold parsedRule?
  rw [sameCells]
  cases (Cell.parseAll numbered.rule.inputEntries).1 <;> rfl

theorem filterMap_parsedRule?_map {f : NumberedRule → NumberedRule}
    (sameCells : ∀ numbered, (f numbered).rule.inputEntries = numbered.rule.inputEntries)
    (rules : List NumberedRule) :
    (rules.map f).filterMap parsedRule? =
      (rules.filterMap parsedRule?).map (ParsedRule.relabel f) := by
  rw [List.filterMap_map, List.map_filterMap]
  congr 1
  funext numbered
  exact parsedRule?_relabel (sameCells numbered)

/-- The search for shadowed rules looks at the expressions of the rules only. -/
theorem shadowFindings_relabel (f : NumberedRule → NumberedRule) (earlier rules : List ParsedRule) :
    shadowFindings (earlier.map (ParsedRule.relabel f)) (rules.map (ParsedRule.relabel f)) =
      (shadowFindings earlier rules).map (Finding.relabel f) := by
  induction rules generalizing earlier with
  | nil => rfl
  | cons rule later ih =>
    have ih := ih (earlier ++ [rule])
    have sameSearch : (fun outer : ParsedRule => outer.shadows (rule.relabel f)) ∘
        ParsedRule.relabel f = fun outer => outer.shadows rule := rfl
    rw [List.map_append, List.map_singleton] at ih
    rw [List.map_cons, shadowFindings, shadowFindings, List.map_append, ih, List.find?_map,
      sameSearch]
    cases earlier.find? fun outer => outer.shadows rule <;> rfl

/-- Whether rules stand in the order of their numbers. -/
def InOrder (rules : List ParsedRule) : Prop :=
  rules.Pairwise fun first second => first.numbered.index < second.numbered.index

/-- One of some numbered rules is the first to shadow another, which comes after it. -/
structure FirstShadow (rules : List ParsedRule) (outer inner : ParsedRule) : Prop where
  outerMember : outer ∈ rules
  innerMember : inner ∈ rules
  inFront : outer.numbered.index < inner.numbered.index
  shadows : outer.shadows inner = true
  noEarlier : ∀ x ∈ rules, x.numbered.index < outer.numbered.index → x.shadows inner = false

/-- The rules in front of a rule are those with a smaller number. -/
theorem filter_index_lt {before after : List ParsedRule} {rule : ParsedRule}
    (ordered : InOrder (before ++ rule :: after)) :
    ((before ++ rule :: after).filter fun x => x.numbered.index < rule.numbered.index) =
      before := by
  rw [InOrder, List.pairwise_append, List.pairwise_cons] at ordered
  have inFront : ∀ x ∈ before, decide (x.numbered.index < rule.numbered.index) = true :=
    fun x member => decide_eq_true (ordered.2.2 x member rule List.mem_cons_self)
  have behind : ∀ x ∈ rule :: after,
      ¬ decide (x.numbered.index < rule.numbered.index) = true := by
    intro x member
    rw [decide_eq_true_eq, Nat.not_lt]
    rcases List.mem_cons.mp member with rfl | member
    · exact Nat.le_refl _
    · exact Nat.le_of_lt (ordered.2.1.1 x member)
  rw [List.filter_append, List.filter_eq_self.mpr inFront, List.filter_eq_nil_iff.mpr behind,
    List.append_nil]

theorem mem_before_iff {before after : List ParsedRule} {rule : ParsedRule}
    (ordered : InOrder (before ++ rule :: after)) {x : ParsedRule} :
    x ∈ before ↔ x ∈ before ++ rule :: after ∧ x.numbered.index < rule.numbered.index := by
  calc
    x ∈ before ↔ x ∈ (before ++ rule :: after).filter fun x =>
        x.numbered.index < rule.numbered.index := by rw [filter_index_lt ordered]
    _ ↔ _ := by rw [List.mem_filter, decide_eq_true_eq]

/-- A finding is about a rule and the first one that shadows it. -/
theorem exists_firstShadow {rules : List ParsedRule} (ordered : InOrder rules)
    {finding : Finding} (found : finding ∈ shadowFindings [] rules) :
    ∃ outer inner, FirstShadow rules outer inner ∧
      finding = ⟨.shadowed outer.numbered, inner.numbered⟩ := by
  rcases mem_shadowFindings_iff.mp found with ⟨before, inner, after, outer, rfl, isFirst, rfl⟩
  rw [List.nil_append] at isFirst
  have outerBefore := List.mem_of_find?_eq_some isFirst
  rcases (mem_before_iff ordered).mp outerBefore with ⟨outerMember, inFront⟩
  rcases List.find?_eq_some_iff_append.mp isFirst with ⟨shadows, start, rest, rfl, noneBefore⟩
  refine ⟨outer, inner, ⟨outerMember, by simp, inFront, shadows, ?_⟩, rfl⟩
  intro x member earlier
  rw [List.append_assoc, List.cons_append] at ordered member
  have inStart := (mem_before_iff ordered).mpr ⟨member, earlier⟩
  simpa using noneBefore x inStart

end Validator

theorem Table.pairwise_numberedRules (table : Table) :
    table.numberedRules.Pairwise fun first second => first.index < second.index := by
  have indices : table.numberedRules.map NumberedRule.index = List.range' 0 table.rules.length := by
    rw [numberedRules, List.map_map, ← List.zipIdx_map_snd]
    rfl
  rw [← List.pairwise_map, indices]
  exact List.pairwise_lt_range'

namespace Validator

theorem inOrder_parsedRules (table : Table) :
    InOrder (table.numberedRules.filterMap parsedRule?) := by
  apply table.pairwise_numberedRules.filterMap
  intro first second before parsedFirst isFirst parsedSecond isSecond
  rw [(parsedRule?_eq_some_iff.mp isFirst).1, (parsedRule?_eq_some_iff.mp isSecond).1]
  exact before

/-- A finding about a shadowed rule comes from an earlier rule that shadows it. -/
theorem exists_shadowing {lookup : EnumLookup} {table : Table} {finding : Finding}
    (found : finding ∈ findings lookup table .shadowedRule) :
    ∃ outer inner : ParsedRule, finding.about = inner.numbered ∧
      outer.numbered ∈ table.numberedRules ∧ outer.numbered.index < inner.numbered.index ∧
      (Cell.parseAll outer.numbered.rule.inputEntries).1 = .ok outer.inputs ∧
      (Cell.parseAll inner.numbered.rule.inputEntries).1 = .ok inner.inputs ∧
      outer.shadows inner = true := by
  rcases exists_firstShadow (inOrder_parsedRules table) found with ⟨outer, inner, first, rfl⟩
  have parsed : ∀ rule ∈ table.numberedRules.filterMap parsedRule?,
      rule.numbered ∈ table.numberedRules ∧
        (Cell.parseAll rule.numbered.rule.inputEntries).1 = .ok rule.inputs := by
    intro rule member
    rcases List.mem_filterMap.mp member with ⟨numbered, numberedMember, isParsed⟩
    rcases parsedRule?_eq_some_iff.mp isParsed with ⟨rfl, read⟩
    exact ⟨numberedMember, read⟩
  have outerParsed := parsed outer first.outerMember
  have innerParsed := parsed inner first.innerMember
  exact ⟨outer, inner, rfl, outerParsed.1, first.inFront, outerParsed.2, innerParsed.2,
    first.shadows⟩

end Validator

namespace Meaning

/-- A rule matches values if each of its cells is an expression that matches its value. -/
def MatchesRule (m : Meaning) (rule : Rule) (values : List Value) : Prop :=
  List.Forall₂ (fun text v => ∃ e, Cell.parse text = .ok e ∧ m.Matches e v) rule.inputEntries values

/-- The first rule of a table that matches some values. -/
structure FirstMatch (m : Meaning) (table : Table) (values : List Value) (first : NumberedRule) :
    Prop where
  member : first ∈ table.numberedRules
  matched : m.MatchesRule first.rule values
  noEarlier : ∀ rule ∈ table.numberedRules, rule.index < first.index →
    ¬ m.MatchesRule rule.rule values

/-- Whether a rule matches depends on the expressions of its cells only. -/
theorem matchesRule_iff (m : Meaning) {rule : Rule} {inputs : List Expr} {values : List Value}
    (read : (Cell.parseAll rule.inputEntries).1 = .ok inputs) :
    m.MatchesRule rule values ↔ List.Forall₂ m.Matches inputs values := by
  rw [Cell.parseAll_eq_ok_iff] at read
  rw [MatchesRule]
  generalize rule.inputEntries = texts at read
  induction read generalizing values with
  | nil => simp only [List.forall₂_nil_left_iff]
  | cons read _ ih =>
    constructor
    · intro matched
      cases matched with
      | cons first others =>
        rcases first with ⟨e, readAgain, first⟩
        rw [read] at readAgain
        cases readAgain
        exact .cons first (ih.mp others)
    · intro matched
      cases matched with
      | cons first others => exact .cons ⟨_, read, first⟩ (ih.mpr others)

theorem forall₂_matches_of_subsumes (m : Meaning) {outer inner : List Expr} {values : List Value}
    (subsumes : List.Forall₂ (fun x y => x.subsumes y = some true) outer inner)
    (matched : List.Forall₂ m.Matches inner values) : List.Forall₂ m.Matches outer values := by
  induction subsumes generalizing values with
  | nil => exact matched
  | cons subsumed _ ih =>
    cases matched with
    | cons first others => exact .cons (m.matches_of_subsumes subsumed first) (ih others)

/-- **The first rule to match is never reported as shadowed.** -/
theorem FirstMatch.not_reported {m : Meaning} {table : Table} {values : List Value}
    {first : NumberedRule} (isFirst : m.FirstMatch table values first) (lookup : EnumLookup) :
    ∀ finding ∈ Validator.findings lookup table .shadowedRule, finding.about ≠ first := by
  rintro finding found rfl
  rcases Validator.exists_shadowing found with
    ⟨outer, inner, about, member, inFront, readOuter, readInner, shadows⟩
  rw [about] at isFirst
  have matched := (m.matchesRule_iff readInner).mp isFirst.matched
  have subsumes := Validator.ParsedRule.shadows_iff.mp shadows
  have alsoMatched := m.forall₂_matches_of_subsumes subsumes matched
  apply isFirst.noEarlier outer.numbered member inFront
  exact (m.matchesRule_iff readOuter).mpr alsoMatched

/-- Of the rules `<1`, `[1..9]` and `[4..5]` the second is the first to match 5, and only the third
is reported. -/
theorem FirstMatch.second_not_reported :
    ∃ table first, (least fun _ _ => False).FirstMatch table [.integer 5] first ∧ first.index = 1 ∧
      ∀ finding ∈ Validator.findings (fun _ => none) table .shadowedRule,
        finding.about ≠ first := by
  let rules : List Rule :=
    [⟨"low", ["<1"], []⟩, ⟨"wide", ["[1..9]"], []⟩, ⟨"narrow", ["[4..5]"], []⟩]
  let low : Expr := .unary .lt (.atom (.integer 1))
  let wide : Expr := .range true (.atom (.integer 1)) (.atom (.integer 9)) true
  have readLow : Cell.parse "<1" = .ok low :=
    Grammar.parse_integerComparison rfl (by decide +kernel)
  have readWide : Cell.parse "[1..9]" = .ok wide :=
    Grammar.parse_integerRange (by decide +kernel)
  have isFirst : (least fun _ _ => False).FirstMatch ⟨none, [], [], rules⟩ [.integer 5]
      ⟨1, ⟨"wide", ["[1..9]"], []⟩⟩ := by
    constructor
    · decide
    · have atLeast : (Value.integer 5).Lies .gt (.atom (.integer 1)) true :=
        (Value.lies_iff rfl rfl).mpr (.inl rfl)
      have atMost : (Value.integer 5).Lies .lt (.atom (.integer 9)) true :=
        (Value.lies_iff rfl rfl).mpr (.inl rfl)
      exact .cons ⟨wide, readWide, by decide, atLeast, atMost⟩ .nil
    · intro rule member inFront matched
      have isLow : rule = ⟨0, ⟨"low", ["<1"], []⟩⟩ := by
        have members : rule = ⟨0, rules[0]⟩ ∨ rule = ⟨1, rules[1]⟩ ∨ rule = ⟨2, rules[2]⟩ := by
          simpa [Table.numberedRules, rules] using member
        rcases members with rfl | rfl | rfl
        · rfl
        · cases Nat.lt_irrefl _ inFront
        · cases Nat.not_lt_of_ge (Nat.le_succ 1) inFront
      subst isLow
      cases matched with
      | cons cell _ =>
        rcases cell with ⟨e, read, matched⟩
        cases Except.ok.inj (readLow.symm.trans read)
        have below : (Value.integer 5).Lies .lt (.atom (.integer 1)) false := matched.2.2
        exact absurd ((Value.lies_iff rfl rfl).mp below) (by decide)
  exact ⟨_, _, isFirst, rfl, isFirst.not_reported _⟩

end Meaning
end CellCheck
