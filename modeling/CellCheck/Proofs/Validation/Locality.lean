import CellCheck.Proofs.Validation.CheckedCells
import CellCheck.Proofs.Validation.Removal
import CellCheck.Table.Edit

/-!
# Changing one rule

When one rule of a table is changed, the findings about the cells of the other rules stay what they
are, because a cell is only checked against its column.  A report of a shadowed rule involves two
rules, and stays what it is if neither of them is the changed one.  So nothing changes in front of
the changed rule, and behind it only reports that name the changed rule come or go.  It does not
matter whether the rule parses before or after the change, or how many cells it has.

What the two tables have in common is the list of their rules without the changed one.  The reports
are brought into a form in which each one is a search among the rules in front of a rule; a search
that does not find the changed rule has the same result without it.
-/

namespace CellCheck

/-! ## The other rules -/

namespace Table

theorem filter_zipIdx_set {α : Type} (index start : Nat) (x : α) (xs : List α) :
    (((xs.set index x).zipIdx start).filter fun y => y.2 ≠ start + index) =
      (xs.zipIdx start).filter fun y => y.2 ≠ start + index := by
  induction xs generalizing index start with
  | nil => rfl
  | cons y ys ih =>
    cases index with
    | zero => simp [List.zipIdx_cons]
    | succ index =>
      have ih := ih index (start + 1)
      rw [Nat.succ_add_eq_add_succ] at ih
      rw [List.set_cons_succ, List.zipIdx_cons, List.zipIdx_cons, List.filter_cons,
        List.filter_cons, ih]

theorem filter_numberedRules_setRule (table : Table) (index : Nat) (rule : Rule) :
    ((table.setRule index rule).numberedRules.filter fun numbered => numbered.index ≠ index) =
      table.numberedRules.filter fun numbered => numbered.index ≠ index := by
  have others := filter_zipIdx_set index 0 rule table.rules
  rw [Nat.zero_add] at others
  simp only [numberedRules, setRule, List.filter_map, Function.comp_def]
  rw [others]

end Table

/-! ## Findings about one rule -/

def findingsAt (index : Nat) (findings : List Finding) : List Finding :=
  findings.filter fun finding => finding.about.index = index

/-- Whether a finding names the rule at a place as the one that shadows another. -/
def Finding.Names (finding : Finding) (index : Nat) : Prop :=
  ∃ earlier, finding.problem = .shadowed earlier ∧ earlier.index = index

namespace Validator

/-! ## Reports as searches -/

/-- The first of some rules that stands in front of a rule and shadows it. -/
def firstShadow? (rules : List ParsedRule) (rule : ParsedRule) : Option ParsedRule :=
  (rules.filter fun outer => outer.numbered.index < rule.numbered.index).find? fun outer =>
    outer.shadows rule

/-- What is reported about a rule among some rules. -/
def shadowFinding? (rules : List ParsedRule) (rule : ParsedRule) : Option Finding :=
  (firstShadow? rules rule).map fun outer => ⟨.shadowed outer.numbered, rule.numbered⟩

/-- The report about a rule depends only on the rules in front of it, and the reports stand in the
order of the rules. -/
theorem shadowFindings_eq_filterMap {earlier rules : List ParsedRule}
    (ordered : InOrder (earlier ++ rules)) :
    shadowFindings earlier rules = rules.filterMap (shadowFinding? (earlier ++ rules)) := by
  induction rules generalizing earlier with
  | nil => rfl
  | cons rule later ih =>
    have inFront := filter_index_lt ordered
    have ih := @ih (earlier ++ [rule]) (by simpa using ordered)
    rw [List.append_assoc, List.singleton_append] at ih
    rw [shadowFindings, ih, List.filterMap_cons, shadowFinding?, firstShadow?, inFront]
    cases earlier.find? fun outer => outer.shadows rule <;> rfl

theorem findingsAt_shadowFindings {rules : List ParsedRule} (ordered : InOrder rules)
    (index : Nat) :
    findingsAt index (shadowFindings [] rules) =
      (rules.filter fun rule => rule.numbered.index = index).filterMap (shadowFinding? rules) := by
  rw [findingsAt, shadowFindings_eq_filterMap (by simpa using ordered), List.nil_append,
    List.filter_filterMap, List.filterMap_filter]
  congr 1
  funext rule
  rw [shadowFinding?]
  cases firstShadow? rules rule with
  | none => simp
  | some outer => by_cases here : rule.numbered.index = index <;> simp [Option.filter, here]

/-- A search that finds one of the selected rules finds the same among the selected rules. -/
theorem firstShadow?_filter {p : NumberedRule → Bool} {rules : List ParsedRule}
    {rule : ParsedRule}
    (keeps : ∀ outer, firstShadow? rules rule = some outer → p outer.numbered = true) :
    firstShadow? (rules.filter fun outer => p outer.numbered) rule = firstShadow? rules rule := by
  rw [firstShadow?, List.filter_comm]
  exact find?_filter_eq keeps

theorem InOrder.length_filter_le_one {rules : List ParsedRule} (ordered : InOrder rules)
    (index : Nat) : (rules.filter fun rule => rule.numbered.index = index).length ≤ 1 := by
  have distinct := ordered.filter fun rule => rule.numbered.index = index
  have same : ∀ rule ∈ rules.filter fun rule => rule.numbered.index = index,
      rule.numbered.index = index := fun rule member => of_decide_eq_true (List.mem_filter.mp member).2
  generalize rules.filter (fun rule => rule.numbered.index = index) = found at distinct same ⊢
  match found with
  | [] => exact Nat.zero_le 1
  | [_] => exact Nat.le_refl 1
  | first :: second :: _ =>
    have before := (List.pairwise_cons.mp distinct).1 second List.mem_cons_self
    rw [same first List.mem_cons_self, same second (by simp)] at before
    exact absurd before (Nat.lt_irrefl _)

/-- A rule has one report at most. -/
theorem length_findingsAt_le_one (lookup : EnumLookup) (table : Table) (index : Nat) :
    (findingsAt index (findings lookup table .shadowedRule)).length ≤ 1 := by
  have ordered := inOrder_parsedRules table
  rw [findings, findingsAt_shadowFindings ordered]
  exact Nat.le_trans (List.length_filterMap_le _ _) (ordered.length_filter_le_one index)

/-! ## Reports that stay -/

/-- Reports name rules in front of the rule that they are about. -/
theorem lt_of_names {rules : List ParsedRule} (ordered : InOrder rules) {index named : Nat}
    {finding : Finding} (found : finding ∈ findingsAt index (shadowFindings [] rules))
    (names : finding.Names named) : named < index := by
  rcases List.mem_filter.mp found with ⟨reported, about⟩
  rcases exists_firstShadow ordered reported with ⟨outer, inner, first, rfl⟩
  rcases names with ⟨earlier, named, rfl⟩
  cases named
  rw [← of_decide_eq_true about]
  exact first.inFront

/-- If no report about a rule names the changed rule, the search behind the report does without the
changed rule. -/
theorem firstShadow?_of_not_names {rules : List ParsedRule} (ordered : InOrder rules)
    {index changed : Nat}
    (notNamed : ∀ finding ∈ findingsAt index (shadowFindings [] rules), ¬ finding.Names changed)
    {rule : ParsedRule} (member : rule ∈ rules.filter fun rule => rule.numbered.index = index) :
    firstShadow? (rules.filter fun outer => outer.numbered.index ≠ changed) rule =
      firstShadow? rules rule := by
  apply firstShadow?_filter (p := fun numbered => numbered.index ≠ changed)
  intro outer found
  rw [decide_eq_true_eq]
  intro same
  have reported : Finding.mk (.shadowed outer.numbered) rule.numbered ∈
      findingsAt index (shadowFindings [] rules) := by
    rw [findingsAt_shadowFindings ordered]
    exact List.mem_filterMap.mpr ⟨rule, member, by rw [shadowFinding?, found]; rfl⟩
  exact notNamed _ reported ⟨_, rfl, same⟩

/-- Reports about a rule that do not name the changed rule stay. -/
theorem findingsAt_shadowFindings_congr {rules rules' : List ParsedRule} (ordered : InOrder rules)
    (ordered' : InOrder rules') {index changed : Nat} (different : index ≠ changed)
    (others : (rules'.filter fun rule => rule.numbered.index ≠ changed) =
      rules.filter fun rule => rule.numbered.index ≠ changed)
    (notNamed : ∀ finding ∈ findingsAt index (shadowFindings [] rules), ¬ finding.Names changed)
    (notNamed' : ∀ finding ∈ findingsAt index (shadowFindings [] rules'), ¬ finding.Names changed) :
    findingsAt index (shadowFindings [] rules') = findingsAt index (shadowFindings [] rules) := by
  have among : ∀ xs : List ParsedRule, (xs.filter fun rule => rule.numbered.index = index) =
      (xs.filter fun rule => rule.numbered.index ≠ changed).filter fun rule =>
        rule.numbered.index = index := by
    intro xs
    rw [List.filter_filter]
    congr 1
    funext rule
    by_cases here : rule.numbered.index = index <;> simp [here, different]
  have sameRule : (rules'.filter fun rule => rule.numbered.index = index) =
      rules.filter fun rule => rule.numbered.index = index := by
    rw [among, others, ← among]
  rw [findingsAt_shadowFindings ordered, findingsAt_shadowFindings ordered', sameRule]
  apply List.filterMap_congr
  intro rule member
  have search := firstShadow?_of_not_names ordered notNamed member
  have search' := firstShadow?_of_not_names ordered' notNamed' (sameRule ▸ member)
  rw [others] at search'
  rw [shadowFinding?, shadowFinding?, ← search, ← search']

end Validator

/-! ## Tables -/

/-- Two tables whose findings differ only through the rule at one place. -/
structure Table.DifferThrough (lookup : EnumLookup) (changed : Nat) (before after : Table) :
    Prop where
  /-- The findings about the cells of all other rules are the same, in the same order. -/
  cells : ∀ (side : Side) (emptyAllowed : Bool),
    ((Validator.findings lookup after (side.validator emptyAllowed)).filter fun finding =>
        finding.about.index ≠ changed) =
      (Validator.findings lookup before (side.validator emptyAllowed)).filter fun finding =>
        finding.about.index ≠ changed
  /-- In front of the rule the same rules are reported as shadowed by the same ones. -/
  inFront : ∀ index < changed,
    findingsAt index (Validator.findings lookup after .shadowedRule) =
      findingsAt index (Validator.findings lookup before .shadowedRule)
  /-- Behind the rule this holds of every rule whose reports do not name it. -/
  behind : ∀ index > changed,
    (∀ finding ∈ findingsAt index (Validator.findings lookup before .shadowedRule),
      ¬ finding.Names changed) →
    (∀ finding ∈ findingsAt index (Validator.findings lookup after .shadowedRule),
      ¬ finding.Names changed) →
    findingsAt index (Validator.findings lookup after .shadowedRule) =
      findingsAt index (Validator.findings lookup before .shadowedRule)

namespace Validator

theorem filter_parsedRules_setRule (table : Table) (changed : Nat) (rule : Rule) :
    (((table.setRule changed rule).numberedRules.filterMap parsedRule?).filter fun rule =>
        rule.numbered.index ≠ changed) =
      (table.numberedRules.filterMap parsedRule?).filter fun rule =>
        rule.numbered.index ≠ changed := by
  have others := table.filter_numberedRules_setRule changed rule
  rw [filter_filterMap_parsedRule? fun numbered => numbered.index ≠ changed, others,
    ← filter_filterMap_parsedRule?]

/-- **A change of one rule has only local effects.**  Each rule has one report as a shadowed rule
at most, and a change of a rule, to whatever it may be, keeps all findings about other rules but
the reports that name the changed rule before or after the change. -/
theorem findings_setRule (lookup : EnumLookup) (table : Table) (changed : Nat) (rule : Rule) :
    (∀ index, (findingsAt index (findings lookup table .shadowedRule)).length ≤ 1) ∧
      table.DifferThrough lookup changed (table.setRule changed rule) := by
  refine ⟨length_findingsAt_le_one lookup table, ?_⟩
  have ordered := inOrder_parsedRules table
  have ordered' := inOrder_parsedRules (table.setRule changed rule)
  have others := filter_parsedRules_setRule table changed rule
  constructor
  · intro side emptyAllowed
    have sameInputs : (table.setRule changed rule).inputs = table.inputs := rfl
    have sameOutputs : (table.setRule changed rule).outputs = table.outputs := rfl
    have sameRules := table.filter_numberedRules_setRule changed rule
    exact filter_findings_cells sameInputs sameOutputs sameRules lookup
      (side.validator_ne_shadowedRule emptyAllowed)
  · intro index inFront
    apply findingsAt_shadowFindings_congr ordered ordered' (Nat.ne_of_lt inFront) others
    · intro finding found names
      exact absurd (lt_of_names ordered found names) (Nat.lt_asymm inFront)
    · intro finding found names
      exact absurd (lt_of_names ordered' found names) (Nat.lt_asymm inFront)
  · intro index behind notNamed notNamed'
    exact findingsAt_shadowFindings_congr ordered ordered' (Nat.ne_of_gt behind) others notNamed
      notNamed'

/-- The rules with the cells `[1..9]` and `[4..5]` are both reported because of a rule without a
condition.  A change of the first of them to a rule without cells does not affect the report about
the second. -/
theorem findings_setRule_between :
    let first : Rule := ⟨"first", [""], []⟩
    let wide : Rule := ⟨"wide", ["[1..9]"], []⟩
    let narrow : Rule := ⟨"narrow", ["[4..5]"], []⟩
    let table : Table := ⟨none, [], [], [first, wide, narrow]⟩
    findingsAt 2 (findings .unknown table .shadowedRule) =
        [⟨.shadowed ⟨0, first⟩, ⟨2, narrow⟩⟩] ∧
      findingsAt 2 (findings .unknown (table.setRule 1 ⟨"none", [], []⟩) .shadowedRule) =
        [⟨.shadowed ⟨0, first⟩, ⟨2, narrow⟩⟩] := by
  intro first wide narrow table
  let wideRange : Expr := .range true (.atom (.integer 1)) (.atom (.integer 9)) true
  let narrowRange : Expr := .range true (.atom (.integer 4)) (.atom (.integer 5)) true
  have readFirst : Cell.parse "" = .ok .empty := Grammar.parse_print_empty
  have readWide : Cell.parse "[1..9]" = .ok wideRange :=
    Grammar.parse_integerRange (by decide +kernel)
  have readNarrow : Cell.parse "[4..5]" = .ok narrowRange :=
    Grammar.parse_integerRange (by decide +kernel)
  have before : findingsAt 2 (findings .unknown table .shadowedRule) =
      [⟨.shadowed ⟨0, first⟩, ⟨2, narrow⟩⟩] := by
    have parsed : table.numberedRules.filterMap parsedRule? =
        [⟨⟨0, first⟩, [.empty]⟩, ⟨⟨1, wide⟩, [wideRange]⟩, ⟨⟨2, narrow⟩, [narrowRange]⟩] := by
      simp [table, first, wide, narrow, Table.numberedRules, parsedRule?, Cell.parseAll, readFirst,
        readWide, readNarrow, Except.map]
    rw [findings, parsed]
    decide
  have after : findingsAt 2 (findings .unknown (table.setRule 1 ⟨"none", [], []⟩) .shadowedRule) =
      [⟨.shadowed ⟨0, first⟩, ⟨2, narrow⟩⟩] := by
    have parsed : (table.setRule 1 ⟨"none", [], []⟩).numberedRules.filterMap parsedRule? =
        [⟨⟨0, first⟩, [.empty]⟩, ⟨⟨1, ⟨"none", [], []⟩⟩, []⟩, ⟨⟨2, narrow⟩, [narrowRange]⟩] := by
      simp [table, first, narrow, Table.setRule, Table.numberedRules, parsedRule?, Cell.parseAll,
        readFirst, readNarrow, Except.map]
    rw [findings, parsed]
    decide
  have notNamed : ∀ finding ∈ [Finding.mk (.shadowed ⟨0, first⟩) ⟨2, narrow⟩],
      ¬ finding.Names 1 := by
    rintro finding member ⟨earlier, named, isChanged⟩
    rw [List.mem_singleton.mp member] at named
    cases named
    cases isChanged
  have unaffected := (findings_setRule .unknown table 1 ⟨"none", [], []⟩).2.behind 2 (by decide)
    (before ▸ notNamed) (after ▸ notNamed)
  exact ⟨before, unaffected.trans before⟩

end Validator
end CellCheck
