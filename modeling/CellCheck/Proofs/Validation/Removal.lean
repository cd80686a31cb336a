import CellCheck.Proofs.Subsumption.Order
import CellCheck.Proofs.Validation.Shadowing
import Mathlib.Data.List.Nodup

/-!
# Removing shadowed rules

A report of a shadowed rule names the first rule that shadows it.  This rule is never reported
itself, because a rule that shadows it would also shadow the other one, and comes first.  So reports
do not chain, and a reported rule is never the reason for another report: if any reported rules are
removed, what is left of the findings is exactly what the smaller table gives.

Removing a rule moves the later ones to other places.  `NumberedRule.moved` follows a rule to its
new place, and findings are followed with the rules that they are about and that they name.
-/

namespace CellCheck

/-! ## Tables without some of their rules -/

/-- The table without the rules at some places. -/
def Table.without (table : Table) (removed : List Nat) : Table :=
  { table with
    rules := (table.numberedRules.filter fun numbered => numbered.index ∉ removed).map
      NumberedRule.rule }

/-- The new place of a rule after the rules at some places have been removed: the number of rules in
front of it that are left. -/
def NumberedRule.moved (removed : List Nat) (numbered : NumberedRule) : NumberedRule :=
  { numbered with index := (List.range numbered.index).countP (· ∉ removed) }

def Finding.moved (removed : List Nat) : Finding → Finding := relabel (NumberedRule.moved removed)

namespace Table

theorem zipIdx_filter {α : Type} (removed : List Nat) (xs : List α) (start : Nat) :
    (((xs.zipIdx start).filter fun x => x.2 ∉ removed).map Prod.fst).zipIdx
        ((List.range start).countP (· ∉ removed)) =
      ((xs.zipIdx start).filter fun x => x.2 ∉ removed).map fun x =>
        (x.1, (List.range x.2).countP (· ∉ removed)) := by
  induction xs generalizing start with
  | nil => rfl
  | cons x xs ih =>
    have ih := ih (start + 1)
    rw [List.range_succ, List.countP_append, List.countP_singleton] at ih
    by_cases isRemoved : start ∈ removed
    · simpa [List.zipIdx_cons, isRemoved] using ih
    · simpa [List.zipIdx_cons, isRemoved] using ih

/-- The rules that are left keep their order and move to the front. -/
theorem numberedRules_without (table : Table) (removed : List Nat) :
    (table.without removed).numberedRules =
      (table.numberedRules.filter fun numbered => numbered.index ∉ removed).map
        (NumberedRule.moved removed) := by
  have moved := zipIdx_filter removed table.rules 0
  simp only [List.range_zero, List.countP_nil] at moved
  simp only [numberedRules, without, List.filter_map, List.map_map, Function.comp_def] at moved ⊢
  rw [moved, List.map_map]
  rfl

end Table

/-! ## Reports do not chain -/

namespace Validator

theorem ParsedRule.shadows_trans {outer middle inner : ParsedRule}
    (first : outer.shadows middle = true) (second : middle.shadows inner = true) :
    outer.shadows inner = true := by
  rw [shadows_iff] at *
  generalize outer.inputs = xs at *
  generalize middle.inputs = ys at *
  generalize inner.inputs = zs at *
  induction first generalizing zs with
  | nil => exact second
  | cons subsumes _ ih =>
    cases second with
    | cons subsumes' others =>
      refine .cons ?_ (ih _ others)
      rw [Expr.subsumes_eq_some_true_iff] at *
      exact subsumes.trans subsumes'

/-- The first rule that shadows another is not shadowed by a rule in front of it. -/
theorem exists_prefix_of_find? {rules : List ParsedRule} {rule outer : ParsedRule}
    (found : rules.find? (fun outer => outer.shadows rule) = some outer) :
    ∃ before after, rules = before ++ outer :: after ∧
      ∀ x ∈ before, x.shadows outer = false := by
  rcases List.find?_eq_some_iff_append.mp found with ⟨shadows, before, after, split, noneBefore⟩
  refine ⟨before, after, split, ?_⟩
  intro x member
  rw [Bool.eq_false_iff]
  intro shadowsOuter
  have shadowsRule := ParsedRule.shadows_trans shadowsOuter shadows
  simpa [shadowsRule] using noneBefore x member

theorem eq_of_index_eq {rules : List ParsedRule} (ordered : InOrder rules) {x y : ParsedRule}
    (xMember : x ∈ rules) (yMember : y ∈ rules)
    (same : x.numbered.index = y.numbered.index) : x = y := by
  have distinct : (rules.map fun rule => rule.numbered.index).Nodup := by
    rw [List.nodup_iff_pairwise_ne, List.pairwise_map]
    exact ordered.imp Nat.ne_of_lt
  exact List.inj_on_of_nodup_map distinct xMember yMember same

theorem FirstShadow.not_shadows {rules : List ParsedRule} {outer inner x : ParsedRule}
    (first : FirstShadow rules outer inner) (member : x ∈ rules)
    (earlier : x.numbered.index < outer.numbered.index) : x.shadows outer = false := by
  rw [Bool.eq_false_iff]
  intro shadowsOuter
  have shadowsInner := ParsedRule.shadows_trans shadowsOuter first.shadows
  rw [first.noEarlier x member earlier] at shadowsInner
  cases shadowsInner

/-- The rule that a finding names is not reported. -/
theorem FirstShadow.live {rules : List ParsedRule} (ordered : InOrder rules)
    {outer inner outer' inner' : ParsedRule} (first : FirstShadow rules outer inner)
    (second : FirstShadow rules outer' inner') : inner'.numbered.index ≠ outer.numbered.index := by
  intro same
  obtain rfl := eq_of_index_eq ordered second.innerMember first.outerMember same
  have notShadowed := first.not_shadows second.outerMember second.inFront
  rw [second.shadows] at notShadowed
  cases notShadowed

/-! ## Leaving reported rules out -/

/-- A search finds the same after some elements have been left out, if it does not find one of
these. -/
theorem find?_filter_eq {α : Type} {p kept : α → Bool} {xs : List α}
    (keeps : ∀ x, xs.find? p = some x → kept x = true) : (xs.filter kept).find? p = xs.find? p := by
  rw [List.find?_filter]
  cases found : xs.find? p with
  | none =>
    rw [List.find?_eq_none] at found ⊢
    intro x member both
    exact found x member (of_decide_eq_true both).2
  | some x =>
    rcases List.find?_eq_some_iff_append.mp found with ⟨holds, before, after, split, noneBefore⟩
    apply List.find?_eq_some_iff_append.mpr
    refine ⟨by simp [holds, keeps x found], before, after, split, ?_⟩
    intro y member
    simp [noneBefore y member]

/-- If every rule that is left out is shadowed by one in front of it, the findings about the other
rules stay what they are. -/
theorem shadowFindings_filter {kept : NumberedRule → Bool} {earlier rules : List ParsedRule}
    (reported : ∀ before rule after, earlier ++ rules = before ++ rule :: after →
      kept rule.numbered = false → ∃ outer ∈ before, outer.shadows rule = true) :
    shadowFindings (earlier.filter fun rule => kept rule.numbered)
        (rules.filter fun rule => kept rule.numbered) =
      (shadowFindings earlier rules).filter fun finding => kept finding.about := by
  induction rules generalizing earlier with
  | nil => rfl
  | cons rule later ih =>
    have ih := @ih (earlier ++ [rule]) (by simpa using reported)
    -- The first rule that shadows this one is not shadowed itself, so it has not been left out.
    have sameFirst : (earlier.filter fun rule => kept rule.numbered).find?
        (fun outer => outer.shadows rule) = earlier.find? fun outer => outer.shadows rule := by
      apply find?_filter_eq
      intro outer found
      rcases exists_prefix_of_find? found with ⟨before, after, rfl, notShadowed⟩
      rw [← Bool.not_eq_false]
      intro leftOut
      rcases reported before outer (after ++ rule :: later) (by simp) leftOut with
        ⟨x, member, shadows⟩
      rw [notShadowed x member] at shadows
      cases shadows
    have aboutRule : ((earlier.find? fun outer => outer.shadows rule).map fun outer =>
        Finding.mk (.shadowed outer.numbered) rule.numbered).toList.filter
          (fun finding => kept finding.about) =
        if kept rule.numbered then ((earlier.find? fun outer => outer.shadows rule).map fun outer =>
          Finding.mk (.shadowed outer.numbered) rule.numbered).toList else [] := by
      cases earlier.find? fun outer => outer.shadows rule <;> simp [List.filter_cons]
    rw [List.filter_append] at ih
    cases isKept : kept rule.numbered with
    | true =>
      simp only [isKept, List.filter_cons, List.filter_nil, if_true] at ih aboutRule ⊢
      rw [shadowFindings, shadowFindings, List.filter_append, sameFirst, aboutRule, ih]
    | false =>
      simp only [isKept, List.filter_cons, List.filter_nil, List.append_nil, Bool.false_eq_true,
        if_false] at ih aboutRule ⊢
      rw [shadowFindings, List.filter_append, aboutRule, ih, List.nil_append]

/-! ## Tables -/

theorem filterMap_parsedRule?_without (table : Table) (removed : List Nat) :
    (table.without removed).numberedRules.filterMap parsedRule? =
      ((table.numberedRules.filterMap parsedRule?).filter fun rule =>
        rule.numbered.index ∉ removed).map (ParsedRule.relabel (NumberedRule.moved removed)) := by
  have sameCells : ∀ numbered : NumberedRule,
      (numbered.moved removed).rule.inputEntries = numbered.rule.inputEntries := fun _ => rfl
  rw [Table.numberedRules_without, filterMap_parsedRule?_map sameCells,
    filter_filterMap_parsedRule? fun numbered => numbered.index ∉ removed]

/-- If reported rules are removed, the findings about the others stay, and move with their rules. -/
theorem findings_without (lookup : EnumLookup) (table : Table) {removed : List Nat}
    (reported : ∀ index ∈ removed, ∃ finding ∈ findings lookup table .shadowedRule,
      finding.about.index = index) :
    findings lookup (table.without removed) .shadowedRule =
      ((findings lookup table .shadowedRule).filter fun finding =>
        finding.about.index ∉ removed).map (Finding.moved removed) := by
  have ordered := inOrder_parsedRules table
  simp only [findings] at reported ⊢
  rw [filterMap_parsedRule?_without]
  generalize table.numberedRules.filterMap parsedRule? = rules at *
  have shadowed : ∀ before rule after, [] ++ rules = before ++ rule :: after →
      decide (rule.numbered.index ∉ removed) = false →
        ∃ outer ∈ before, outer.shadows rule = true := by
    rintro before rule after rfl isRemoved
    rw [decide_eq_false_iff_not, Decidable.not_not] at isRemoved
    rcases reported _ isRemoved with ⟨finding, found, about⟩
    rcases exists_firstShadow ordered found with ⟨outer, inner, first, rfl⟩
    obtain rfl := eq_of_index_eq ordered first.innerMember (by simp) about
    exact ⟨outer, (mem_before_iff ordered).mpr ⟨first.outerMember, first.inFront⟩, first.shadows⟩
  have filtered :=
    @shadowFindings_filter (fun numbered => numbered.index ∉ removed) [] rules shadowed
  have moved := shadowFindings_relabel (NumberedRule.moved removed) [] (rules.filter fun rule =>
    rule.numbered.index ∉ removed)
  rw [List.filter_nil] at filtered
  rw [List.map_nil, filtered] at moved
  exact moved

/-- **Reports of shadowed rules do not chain, and it is safe to remove reported rules.** -/
theorem shadowedRule_findings_without (lookup : EnumLookup) (table : Table) :
    (∀ finding ∈ findings lookup table .shadowedRule, ∀ earlier,
      finding.problem = .shadowed earlier →
        ∀ other ∈ findings lookup table .shadowedRule, other.about.index ≠ earlier.index) ∧
    (∀ removed : List Nat,
      (∀ index ∈ removed, ∃ finding ∈ findings lookup table .shadowedRule,
        finding.about.index = index) →
      findings lookup (table.without removed) .shadowedRule =
        ((findings lookup table .shadowedRule).filter fun finding =>
          finding.about.index ∉ removed).map (Finding.moved removed)) ∧
    findings lookup (table.without ((findings lookup table .shadowedRule).map fun finding =>
      finding.about.index)) .shadowedRule = [] := by
  refine ⟨?_, fun removed reported => findings_without lookup table reported, ?_⟩
  · intro finding found earlier names other otherFound
    have ordered := inOrder_parsedRules table
    rcases exists_firstShadow ordered found with ⟨outer, inner, first, rfl⟩
    rcases exists_firstShadow ordered otherFound with ⟨outer', inner', second, rfl⟩
    cases names
    exact first.live ordered second
  · rw [findings_without lookup table]
    · rw [List.map_eq_nil_iff, List.filter_eq_nil_iff]
      intro finding found isKept
      exact of_decide_eq_true isKept (List.mem_map_of_mem found)
    · intro index member
      exact List.mem_map.mp member

/-- Of the rules with the empty cell, `[1..9]` and `[4..5]` the last two are reported, both because
of the first.  Without the second rule the third moves up and is still reported. -/
theorem shadowedRule_findings_without_second :
    let first : Rule := ⟨"first", [""], []⟩
    let wide : Rule := ⟨"wide", ["[1..9]"], []⟩
    let narrow : Rule := ⟨"narrow", ["[4..5]"], []⟩
    let table : Table := ⟨none, [], [], [first, wide, narrow]⟩
    (∀ index ∈ [1], ∃ finding ∈ findings .unknown table .shadowedRule,
      finding.about.index = index) ∧
    findings .unknown (table.without [1]) .shadowedRule =
      [⟨.shadowed ⟨0, first⟩, ⟨1, narrow⟩⟩] := by
  intro first wide narrow table
  have readFirst : Cell.parse "" = .ok .empty := Grammar.parse_print_empty
  have readWide : Cell.parse "[1..9]" =
      .ok (.range true (.atom (.integer 1)) (.atom (.integer 9)) true) :=
    Grammar.parse_integerRange (by decide +kernel)
  have readNarrow : Cell.parse "[4..5]" =
      .ok (.range true (.atom (.integer 4)) (.atom (.integer 5)) true) :=
    Grammar.parse_integerRange (by decide +kernel)
  have all : findings .unknown table .shadowedRule =
      [⟨.shadowed ⟨0, first⟩, ⟨1, wide⟩⟩, ⟨.shadowed ⟨0, first⟩, ⟨2, narrow⟩⟩] := by
    have parsed : table.numberedRules.filterMap parsedRule? =
        [⟨⟨0, first⟩, [.empty]⟩,
          ⟨⟨1, wide⟩, [.range true (.atom (.integer 1)) (.atom (.integer 9)) true]⟩,
          ⟨⟨2, narrow⟩, [.range true (.atom (.integer 4)) (.atom (.integer 5)) true]⟩] := by
      simp [table, first, wide, narrow, Table.numberedRules, parsedRule?, Cell.parseAll, readFirst,
        readWide, readNarrow, Except.map]
    rw [findings, parsed]
    decide
  have reported : ∀ index ∈ [1], ∃ finding ∈ findings .unknown table .shadowedRule,
      finding.about.index = index := by
    rw [all]
    decide
  refine ⟨reported, ?_⟩
  rw [(shadowedRule_findings_without .unknown table).2.1 [1] reported, all]
  decide

end Validator
end CellCheck
