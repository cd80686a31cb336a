import CellCheck.Proofs.Validation.Locality

/-!
# What is reported as shadowed

The search for shadowed rules goes through the rules once and keeps those that it has seen.  Here the
reports are described without the search, by what the cells of two rules mean for each other: a rule
is reported if a rule in front of it subsumes it cell by cell, and the report names the first such
rule.

A rule with a cell that is no expression shadows nothing and is not shadowed, so the reports about
the other rules are the same with and without it, up to the places of the rules behind it.  Columns,
output cells and enumerations do not occur in the description, and the reports do not depend on
them.
-/

namespace CellCheck

/-! ## Rules as texts -/

/-- Two cells are expressions, and the first subsumes the second. -/
def Cell.Subsumes (outer inner : String) : Prop :=
  ∃ x y, parse outer = .ok x ∧ parse inner = .ok y ∧ x.subsumes y = some true

namespace Rule

def Readable (rule : Rule) : Prop := ∀ text ∈ rule.inputEntries, ∃ e, Cell.parse text = .ok e

/-- One rule shadows another one with as many input cells: all these cells are expressions, and
each one of the outer rule subsumes the one of the inner rule at the same place. -/
def Shadows (outer inner : Rule) : Prop :=
  List.Forall₂ Cell.Subsumes outer.inputEntries inner.inputEntries

def withoutOutputs (rule : Rule) : Rule := { rule with outputEntries := [] }

theorem readable_iff {rule : Rule} :
    rule.Readable ↔ ∃ inputs, (Cell.parseAll rule.inputEntries).1 = .ok inputs := by
  simp only [Readable, Cell.parseAll_eq_ok_iff]
  generalize rule.inputEntries = texts
  induction texts with
  | nil => simp
  | cons text texts ih =>
    rw [List.forall_mem_cons, ih]
    constructor
    · intro readable
      rcases readable with ⟨⟨e, first⟩, es, others⟩
      exact ⟨e :: es, .cons first others⟩
    · intro readable
      rcases readable with ⟨_, _ | ⟨first, others⟩⟩
      exact ⟨⟨_, first⟩, _, others⟩

theorem Shadows.readable {outer inner : Rule} (shadows : outer.Shadows inner) :
    outer.Readable ∧ inner.Readable := by
  rw [Shadows] at shadows
  simp only [Readable]
  generalize outer.inputEntries = texts at *
  generalize inner.inputEntries = texts' at *
  induction shadows with
  | nil => exact ⟨fun _ none => absurd none List.not_mem_nil, fun _ none => absurd none List.not_mem_nil⟩
  | cons subsumes _ ih =>
    rcases subsumes with ⟨x, y, readOuter, readInner, _⟩
    exact ⟨List.forall_mem_cons.mpr ⟨⟨x, readOuter⟩, ih.1⟩,
      List.forall_mem_cons.mpr ⟨⟨y, readInner⟩, ih.2⟩⟩

end Rule

/-- One rule of a table is the first to shadow another, which comes after it. -/
structure Table.FirstToShadow (table : Table) (outer inner : NumberedRule) : Prop where
  outerMember : outer ∈ table.numberedRules
  innerMember : inner ∈ table.numberedRules
  inFront : outer.index < inner.index
  shadows : outer.rule.Shadows inner.rule
  noEarlier : ∀ x ∈ table.numberedRules, x.index < outer.index → ¬ x.rule.Shadows inner.rule

namespace Validator

/-! ## Rules as expressions -/

theorem parsedRule?_eq_none_iff {numbered : NumberedRule} :
    parsedRule? numbered = none ↔ ¬ numbered.rule.Readable := by
  rw [Rule.readable_iff, parsedRule?]
  cases (Cell.parseAll numbered.rule.inputEntries).1 <;> simp

theorem exists_parsedRule {table : Table} {numbered : NumberedRule}
    (member : numbered ∈ table.numberedRules) (readable : numbered.rule.Readable) :
    ∃ rule ∈ table.numberedRules.filterMap parsedRule?, rule.numbered = numbered := by
  cases parsed : parsedRule? numbered with
  | none => exact absurd readable (parsedRule?_eq_none_iff.mp parsed)
  | some rule =>
    refine ⟨rule, List.mem_filterMap.mpr ⟨numbered, member, parsed⟩, ?_⟩
    exact (parsedRule?_eq_some_iff.mp parsed).1

/-- The rules that take part in the search are rules of the table with their expressions. -/
theorem spec_of_mem_parsedRules {table : Table} {rule : ParsedRule}
    (member : rule ∈ table.numberedRules.filterMap parsedRule?) :
    rule.numbered ∈ table.numberedRules ∧
      List.Forall₂ (fun text e => Cell.parse text = .ok e) rule.numbered.rule.inputEntries
        rule.inputs := by
  rcases List.mem_filterMap.mp member with ⟨numbered, numberedMember, parsed⟩
  rcases parsedRule?_eq_some_iff.mp parsed with ⟨rfl, read⟩
  exact ⟨numberedMember, Cell.parseAll_eq_ok_iff.mp read⟩

/-- Expressions that are read from cells subsume each other as the cells do. -/
theorem forall₂_subsumes_iff {texts texts' : List String} {xs ys : List Expr}
    (read : List.Forall₂ (fun text e => Cell.parse text = .ok e) texts xs)
    (read' : List.Forall₂ (fun text e => Cell.parse text = .ok e) texts' ys) :
    List.Forall₂ (fun x y => x.subsumes y = some true) xs ys ↔
      List.Forall₂ Cell.Subsumes texts texts' := by
  induction read generalizing texts' ys with
  | nil => cases read' <;> simp
  | cons first _ ih =>
    cases read' with
    | nil => simp
    | cons first' others' =>
      rw [List.forall₂_cons, List.forall₂_cons, ih others']
      apply and_congr_left
      intro _
      constructor
      · exact fun subsumes => ⟨_, _, first, first', subsumes⟩
      · intro subsumes
        rcases subsumes with ⟨x, y, readOuter, readInner, subsumes⟩
        rw [first] at readOuter
        rw [first'] at readInner
        cases readOuter
        cases readInner
        exact subsumes

/-- The search compares rules by what their cells mean. -/
theorem shadows_iff_of_mem {table : Table} {outer inner : ParsedRule}
    (outerMember : outer ∈ table.numberedRules.filterMap parsedRule?)
    (innerMember : inner ∈ table.numberedRules.filterMap parsedRule?) :
    outer.shadows inner = true ↔ outer.numbered.rule.Shadows inner.numbered.rule := by
  rw [ParsedRule.shadows_iff, Rule.Shadows]
  exact forall₂_subsumes_iff (spec_of_mem_parsedRules outerMember).2
    (spec_of_mem_parsedRules innerMember).2

/-! ## Reports and first shadows -/

theorem FirstShadow.outer_unique {rules : List ParsedRule} (ordered : InOrder rules)
    {outer outer' inner : ParsedRule} (first : FirstShadow rules outer inner)
    (first' : FirstShadow rules outer' inner) : outer = outer' := by
  apply eq_of_index_eq ordered first.outerMember first'.outerMember
  apply Nat.le_antisymm
  · apply Nat.le_of_not_lt
    intro earlier
    have notShadowed := first.noEarlier outer' first'.outerMember earlier
    rw [first'.shadows] at notShadowed
    cases notShadowed
  · apply Nat.le_of_not_lt
    intro earlier
    have notShadowed := first'.noEarlier outer first.outerMember earlier
    rw [first.shadows] at notShadowed
    cases notShadowed

/-- A rule that some rule in front of it shadows is reported. -/
theorem exists_finding_of_shadows {rules : List ParsedRule} (ordered : InOrder rules)
    {outer inner : ParsedRule} (outerMember : outer ∈ rules) (innerMember : inner ∈ rules)
    (inFront : outer.numbered.index < inner.numbered.index) (shadows : outer.shadows inner = true) :
    ∃ finding ∈ shadowFindings [] rules, finding.about = inner.numbered := by
  have candidate : outer ∈ rules.filter fun x => x.numbered.index < inner.numbered.index :=
    List.mem_filter.mpr ⟨outerMember, decide_eq_true inFront⟩
  have isSome : (firstShadow? rules inner).isSome = true :=
    List.find?_isSome.mpr ⟨outer, candidate, shadows⟩
  rcases Option.isSome_iff_exists.mp isSome with ⟨first, found⟩
  refine ⟨⟨.shadowed first.numbered, inner.numbered⟩, ?_, rfl⟩
  rw [shadowFindings_eq_filterMap (by simpa using ordered), List.nil_append]
  exact List.mem_filterMap.mpr ⟨inner, innerMember, by rw [shadowFinding?, found]; rfl⟩

/-- The reports among some rules are exactly the pairs of a rule and the first one that shadows it. -/
theorem mem_shadowFindings_iff_firstShadow {rules : List ParsedRule} (ordered : InOrder rules)
    {finding : Finding} :
    finding ∈ shadowFindings [] rules ↔ ∃ outer inner, FirstShadow rules outer inner ∧
      finding = ⟨.shadowed outer.numbered, inner.numbered⟩ := by
  constructor
  · exact exists_firstShadow ordered
  · intro given
    rcases given with ⟨outer, inner, first, rfl⟩
    rcases exists_finding_of_shadows ordered first.outerMember first.innerMember first.inFront
      first.shadows with ⟨finding, found, about⟩
    rcases exists_firstShadow ordered found with ⟨outer', inner', first', rfl⟩
    have sameInner := eq_of_index_eq ordered first'.innerMember first.innerMember
      (congrArg NumberedRule.index about)
    subst sameInner
    rw [first.outer_unique ordered first']
    exact found

/-- Among the rules that take part in the search, a rule is the first to shadow another exactly if
it is so in the table. -/
theorem firstShadow_iff {table : Table} {outer inner : ParsedRule}
    (outerMember : outer ∈ table.numberedRules.filterMap parsedRule?)
    (innerMember : inner ∈ table.numberedRules.filterMap parsedRule?) :
    FirstShadow (table.numberedRules.filterMap parsedRule?) outer inner ↔
      table.FirstToShadow outer.numbered inner.numbered := by
  constructor
  · intro first
    refine ⟨(spec_of_mem_parsedRules outerMember).1, (spec_of_mem_parsedRules innerMember).1,
      first.inFront, (shadows_iff_of_mem outerMember innerMember).mp first.shadows, ?_⟩
    intro x member earlier shadows
    rcases exists_parsedRule member shadows.readable.1 with ⟨rule, ruleMember, rfl⟩
    have notShadowed := first.noEarlier rule ruleMember earlier
    rw [(shadows_iff_of_mem ruleMember innerMember).mpr shadows] at notShadowed
    cases notShadowed
  · intro first
    refine ⟨outerMember, innerMember, first.inFront,
      (shadows_iff_of_mem outerMember innerMember).mpr first.shadows, ?_⟩
    intro x member earlier
    rw [Bool.eq_false_iff]
    intro shadows
    exact first.noEarlier x.numbered (spec_of_mem_parsedRules member).1 earlier
      ((shadows_iff_of_mem member innerMember).mp shadows)

theorem mem_findings_iff_firstToShadow {lookup : EnumLookup} {table : Table} {finding : Finding} :
    finding ∈ findings lookup table .shadowedRule ↔ ∃ outer inner,
      table.FirstToShadow outer inner ∧ finding = ⟨.shadowed outer, inner⟩ := by
  rw [findings, mem_shadowFindings_iff_firstShadow (inOrder_parsedRules table)]
  constructor
  · intro given
    rcases given with ⟨outer, inner, first, same⟩
    exact ⟨_, _, (firstShadow_iff first.outerMember first.innerMember).mp first, same⟩
  · intro given
    rcases given with ⟨outer, inner, first, same⟩
    rcases exists_parsedRule first.outerMember first.shadows.readable.1 with ⟨outerRule, outerMember, rfl⟩
    rcases exists_parsedRule first.innerMember first.shadows.readable.2 with ⟨innerRule, innerMember, rfl⟩
    exact ⟨outerRule, innerRule, (firstShadow_iff outerMember innerMember).mpr first, same⟩

theorem pairwise_shadowFindings {rules : List ParsedRule} (ordered : InOrder rules) :
    (shadowFindings [] rules).Pairwise fun first second => first.about.index < second.about.index := by
  rw [shadowFindings_eq_filterMap (by simpa using ordered), List.nil_append]
  have aboutOwn : ∀ rule finding, shadowFinding? rules rule = some finding →
      finding.about = rule.numbered := by
    intro rule finding found
    rcases Option.map_eq_some_iff.mp found with ⟨outer, _, rfl⟩
    rfl
  apply List.Pairwise.filterMap _ _ ordered
  intro first second before finding found finding' found'
  rw [aboutOwn first finding found, aboutOwn second finding' found']
  exact before

end Validator

/-! ## Tables with the same readable rules -/

/-- The place of a rule after one more rule has come in at a place. -/
def NumberedRule.shifted (start : Nat) (numbered : NumberedRule) : NumberedRule :=
  { numbered with index := if numbered.index < start then numbered.index else numbered.index + 1 }

def NumberedRule.withoutOutputs (numbered : NumberedRule) : NumberedRule :=
  { numbered with rule := numbered.rule.withoutOutputs }

/-- With one more rule, the rules in front of it stay where they are and the others move by one. -/
theorem Table.numberedRules_insert (table : Table) (front back : List Rule) (rule : Rule) :
    ∃ before after,
      ({ table with rules := front ++ back } : Table).numberedRules = before ++ after ∧
      ({ table with rules := front ++ rule :: back } : Table).numberedRules =
        before.map (NumberedRule.shifted front.length) ++
          ⟨front.length, rule⟩ :: after.map (NumberedRule.shifted front.length) := by
  refine ⟨front.zipIdx.map fun x => ⟨x.2, x.1⟩,
    (back.zipIdx front.length).map fun x => ⟨x.2, x.1⟩, ?_, ?_⟩
  · simp only [numberedRules, List.zipIdx_append, List.map_append, Nat.zero_add]
  · have stay : ∀ x ∈ front.zipIdx,
        (⟨x.2, x.1⟩ : NumberedRule) = NumberedRule.shifted front.length ⟨x.2, x.1⟩ := by
      intro x member
      have inFront : x.2 < front.length := by simpa using List.snd_lt_of_mem_zipIdx member
      simp [NumberedRule.shifted, inFront]
    have move : ∀ x ∈ back.zipIdx front.length,
        (⟨x.2 + 1, x.1⟩ : NumberedRule) = NumberedRule.shifted front.length ⟨x.2, x.1⟩ := by
      intro x member
      have behind := Nat.not_lt_of_le (List.le_snd_of_mem_zipIdx member)
      simp [NumberedRule.shifted, behind]
    simp only [numberedRules, List.zipIdx_append, List.zipIdx_cons, List.zipIdx_succ,
      List.map_append, List.map_cons, List.map_map, Nat.zero_add]
    rw [List.map_congr_left stay]
    refine congrArg (_ ++ _ :: ·) ?_
    exact List.map_congr_left move

namespace Validator

/-- If a table has the readable rules of another one, up to other names that keep the input cells, it
has the same reports, with the other names. -/
theorem findings_eq_map_relabel {table table' : Table} (f : NumberedRule → NumberedRule)
    (sameCells : ∀ numbered, (f numbered).rule.inputEntries = numbered.rule.inputEntries)
    (sameRules : table'.numberedRules.filterMap parsedRule? =
      (table.numberedRules.map f).filterMap parsedRule?) (lookup lookup' : EnumLookup) :
    findings lookup' table' .shadowedRule =
      (findings lookup table .shadowedRule).map (Finding.relabel f) := by
  rw [findings, findings, sameRules, filterMap_parsedRule?_map sameCells]
  exact shadowFindings_relabel f [] _

/-- An unreadable rule has no effect on the reports, apart from the places of the rules behind it. -/
theorem findings_insert (table : Table) (front back : List Rule) {rule : Rule}
    (unreadable : ¬ rule.Readable) (lookup : EnumLookup) :
    findings lookup { table with rules := front ++ rule :: back } .shadowedRule =
      (findings lookup { table with rules := front ++ back } .shadowedRule).map
        (Finding.relabel (NumberedRule.shifted front.length)) := by
  apply findings_eq_map_relabel (NumberedRule.shifted front.length) fun _ => rfl
  rcases table.numberedRules_insert front back rule with ⟨before, after, without, inserted⟩
  have skipped : parsedRule? ⟨front.length, rule⟩ = none := parsedRule?_eq_none_iff.mpr unreadable
  rw [without, inserted, List.filterMap_append, List.filterMap_cons, skipped, List.map_append,
    List.filterMap_append]

/-- The reports do not depend on columns, output cells and enumerations. -/
theorem findings_withoutOutputs {table table' : Table}
    (sameInputs : table'.rules.map Rule.withoutOutputs = table.rules.map Rule.withoutOutputs)
    (lookup lookup' : EnumLookup) :
    (findings lookup' table' .shadowedRule).map (Finding.relabel NumberedRule.withoutOutputs) =
      (findings lookup table .shadowedRule).map (Finding.relabel NumberedRule.withoutOutputs) := by
  have numbered : ∀ table : Table, table.numberedRules.map NumberedRule.withoutOutputs =
      ({ table with rules := table.rules.map Rule.withoutOutputs } : Table).numberedRules := by
    intro table
    simp only [Table.numberedRules, List.zipIdx_map, List.map_map]
    rfl
  have erased : ∀ (lookup : EnumLookup) (table : Table),
      findings lookup { table with rules := table.rules.map Rule.withoutOutputs } .shadowedRule =
        (findings lookup table .shadowedRule).map (Finding.relabel NumberedRule.withoutOutputs) := by
    intro lookup table
    apply findings_eq_map_relabel NumberedRule.withoutOutputs fun _ => rfl
    rw [numbered]
  rw [← erased, ← erased, findings, findings]
  simp only [Table.numberedRules, sameInputs]

end Validator

/-- What the reports of shadowed rules of a table are. -/
structure Table.ReportsFirstShadows (lookup : EnumLookup) (table : Table) : Prop where
  /-- The reports stand in the order of the rules, one report for a rule at most. -/
  inOrder : (Validator.findings lookup table .shadowedRule).Pairwise fun first second =>
    first.about.index < second.about.index
  /-- A rule is reported exactly if some rule in front of it shadows it. -/
  reported_iff : ∀ inner ∈ table.numberedRules,
    (∃ finding ∈ Validator.findings lookup table .shadowedRule, finding.about = inner) ↔
      ∃ outer ∈ table.numberedRules, outer.index < inner.index ∧ outer.rule.Shadows inner.rule
  /-- Each report is a warning that names the first such rule, and there are no other ones. -/
  mem_iff : ∀ finding, finding ∈ Validator.findings lookup table .shadowedRule ↔
    ∃ outer inner, table.FirstToShadow outer inner ∧ finding = ⟨.shadowed outer, inner⟩ ∧
      finding.report = ⟨.warning, "Rule is shadowed by rule " ++ outer.rule.id⟩
  /-- The reports are the same with an unreadable rule anywhere and without it. -/
  unreadable : ∀ front rule back, ¬ rule.Readable →
    (table.rules = front ++ rule :: back →
      Validator.findings lookup table .shadowedRule =
        (Validator.findings lookup { table with rules := front ++ back } .shadowedRule).map
          (Finding.relabel (NumberedRule.shifted front.length))) ∧
    (table.rules = front ++ back →
      Validator.findings lookup { table with rules := front ++ rule :: back } .shadowedRule =
        (Validator.findings lookup table .shadowedRule).map
          (Finding.relabel (NumberedRule.shifted front.length)))
  /-- Only the identifiers and the input cells of the rules matter. -/
  onlyInputs : ∀ (lookup' : EnumLookup) (table' : Table),
    table'.rules.map Rule.withoutOutputs = table.rules.map Rule.withoutOutputs →
      (Validator.findings lookup' table' .shadowedRule).map
          (Finding.relabel NumberedRule.withoutOutputs) =
        (Validator.findings lookup table .shadowedRule).map
          (Finding.relabel NumberedRule.withoutOutputs)

/-- **Exactly the shadowed rules are reported, each with the first rule that shadows it.** -/
theorem Table.reportsFirstShadows (lookup : EnumLookup) (table : Table) :
    table.ReportsFirstShadows lookup := by
  have ordered := Validator.inOrder_parsedRules table
  constructor
  · exact Validator.pairwise_shadowFindings ordered
  · intro inner member
    constructor
    · intro given
      rcases given with ⟨finding, found, about⟩
      rcases Validator.mem_findings_iff_firstToShadow.mp found with ⟨outer, inner', first, rfl⟩
      cases about
      exact ⟨outer, first.outerMember, first.inFront, first.shadows⟩
    · intro given
      rcases given with ⟨outer, outerMember, inFront, shadows⟩
      rcases Validator.exists_parsedRule outerMember shadows.readable.1 with
        ⟨outerRule, outerParsed, rfl⟩
      rcases Validator.exists_parsedRule member shadows.readable.2 with
        ⟨innerRule, innerParsed, rfl⟩
      exact Validator.exists_finding_of_shadows ordered outerParsed innerParsed inFront
        ((Validator.shadows_iff_of_mem outerParsed innerParsed).mpr shadows)
  · intro finding
    rw [Validator.mem_findings_iff_firstToShadow]
    constructor
    · intro given
      rcases given with ⟨outer, inner, first, rfl⟩
      exact ⟨outer, inner, first, rfl, rfl⟩
    · intro given
      rcases given with ⟨outer, inner, first, same, _⟩
      exact ⟨outer, inner, first, same⟩
  · intro front rule back unreadable
    have inserted := Validator.findings_insert table front back unreadable lookup
    constructor
    · intro split
      rwa [← split] at inserted
    · intro split
      rwa [← split] at inserted
  · intro lookup' table' sameInputs
    exact Validator.findings_withoutOutputs sameInputs lookup lookup'

end CellCheck
