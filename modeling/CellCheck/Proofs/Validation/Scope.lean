import CellCheck.Proofs.Lexing.Blank
import CellCheck.Proofs.Printing.Denoted
import CellCheck.Proofs.Validation.Members
import CellCheck.Proofs.Validation.Rejections

/-!
# Variables and empty cells in tables

An input cell is checked in a context that knows the variable of its column only, and an output cell
in one that knows none.  What passes has a type, and a tree has a type only if everything in it has
one, so no other variable occurs in the cell, at whatever depth, and no negation does.

Whether a cell is empty is decided by its type and not by its tree.  For an output cell this comes
to the same: without variables only the empty tree has the type of the empty cell, because the
parser puts the empty tree nowhere but at the root.  So the reports of empty cells are about the
cells with a blank text or a lone minus sign, and to allow empty cells takes away these reports and
nothing else.
-/

namespace CellCheck

/-! ## What a type says about a tree -/

theorem Context.type?_single (name : String) (ty : Ty) (other : String) :
    (single name ty).type? other = if name = other then some ty else none := by
  by_cases same : name = other <;> simp [single, type?, same]

namespace Expr

theorem type?_ne_none_of_infer {context : Context} {e : Expr} {ty : Ty}
    (typed : e.infer context = .ok ty) {name : String}
    (mentioned : .atom (.variable name) ∈ e.subtrees) : context.type? name ≠ none := by
  have admitted : Atom.infer context (.variable name) = .ok ty :=
    infer_eq_ok_iff_forall_admits.mp typed _ mentioned
  intro unbound
  rw [Atom.infer, unbound] at admitted
  cases admitted

/-- No negation has a type, and so nothing that it occurs in has one. -/
theorem not_mem_subtrees_of_infer {context : Context} {e : Expr} {ty : Ty}
    (typed : e.infer context = .ok ty) (negated : Expr) : .unary .not negated ∉ e.subtrees := by
  intro member
  cases (infer_eq_ok_iff_forall_admits.mp typed _ member).1

/-- Without variables, the type of the empty cell can only come from an empty leaf. -/
theorem empty_mem_subtrees_of_infer_top {e : Expr} (typed : e.infer .empty = .ok .top) :
    .empty ∈ e.subtrees := by
  induction e using induction_children with
  | step e ih =>
    cases below : e.children with
    | nil =>
      have leaf := (admits_leaf_iff below).mp (infer_eq_ok_iff.mp typed).1
      cases leaf with
      | empty => exact self_mem_subtrees _
      | name bound => cases bound
    | cons child others =>
      have isChild : child ∈ e.children := below ▸ List.mem_cons_self
      have inChild := ih child isChild ((infer_eq_ok_iff.mp typed).2 child isChild)
      exact mem_subtrees_iff.mpr (.inl ⟨child, isChild, inChild⟩)

theorem Written.ne_empty {form : Form} {e : Expr} (written : e.Written form) : e ≠ .empty := by
  rintro rfl
  exact written.mayOccur _ (self_mem_subtrees _)

end Expr

/-- A text is read as the empty tree exactly if it has no condition. -/
theorem Cell.parse_eq_ok_empty_iff {text : String} :
    parse text = .ok .empty ↔ Unconditional text := by
  rw [← Session.isBlank_ofText_iff, Grammar.parse_ofText_eq_ok_iff, Grammar.derivesCell_iff,
    Session.isBlank, Bool.or_eq_true, decide_eq_true_eq, decide_eq_true_eq]
  constructor
  · intro derivation
    split at derivation
    · next isBlank => exact isBlank
    · have written := derivation.written Token.wellFormed_of_mem_ofChars
      exact absurd rfl written.ne_empty
  · intro isBlank
    rw [if_pos isBlank]

/-- Without variables, the type of the empty cell is the type of texts without a condition. -/
theorem Cell.exists_infer_top_iff {text : String} :
    (∃ e, parse text = .ok e ∧ e.infer .empty = .ok .top) ↔ Unconditional text := by
  rw [← parse_eq_ok_empty_iff]
  constructor
  · rintro ⟨e, parsed, typed⟩
    rcases Grammar.written_of_parse parsed with rfl | written
    · exact parsed
    · exact absurd (Expr.empty_mem_subtrees_of_infer_top typed) fun member =>
        written.mayOccur _ member
  · exact fun parsed => ⟨.empty, parsed, rfl⟩

/-! ## Reports of empty cells -/

theorem append_ne_of_take_ne {front text : String} (long : 2 ≤ front.toList.length)
    (different : front.toList.take 2 ≠ text.toList.take 2) (rest : String) : front ++ rest ≠ text := by
  rintro rfl
  rw [String.toList_append, List.take_append_of_le_length long] at different
  exact different rfl

theorem ParseError.message_ne_empty (error : ParseError) :
    error.message ≠ "Empty expression is not allowed." := by
  unfold message
  simp only [String.append_assoc]
  exact append_ne_of_take_ne (by decide) (by decide) _

theorem TypeError.message_ne_empty (error : TypeError) :
    error.message ≠ "Empty expression is not allowed." := by
  cases error <;> simp only [message, String.append_assoc]
  case unboundVariable => exact append_ne_of_take_ne (by decide) (by decide) _
  case nonNumericOperand => exact append_ne_of_take_ne (by decide) (by decide) _
  case nonBooleanOperand => exact append_ne_of_take_ne (by decide) (by decide) _
  all_goals decide

/-- The message about empty cells is not used for anything else. -/
theorem EntryProblem.message_eq_iff {problem : EntryProblem} :
    problem.message = "Empty expression is not allowed." ↔ problem = .emptyNotAllowed := by
  constructor
  · intro same
    cases problem with
    | emptyNotAllowed => rfl
    | unparsable error => exact absurd same error.message_ne_empty
    | illTyped error => exact absurd same error.message_ne_empty
    | typeMismatch side => cases side <;> exact absurd same (by decide)
    | unknownEnumeration | notMember =>
      simp only [message, String.append_assoc] at same
      exact absurd same (append_ne_of_take_ne (by decide) (by decide) _)
  · rintro rfl
    rfl

namespace EntryPolicy

variable {lookup : EnumLookup} {declared : DeclaredType} {context : Context} {text : String}

theorem judgeMembers_ne_empty {enumeration : String} {e : Expr} :
    judgeMembers lookup enumeration e ≠ some .emptyNotAllowed := by
  unfold judgeMembers
  cases lookup enumeration <;> simp

theorem judgeType_emptyAllowed (side : Side) (base ty : Ty) :
    judgeType ⟨side, true⟩ base ty =
      (judgeType ⟨side, false⟩ base ty).filter fun problem => problem ≠ .emptyNotAllowed := by
  unfold judgeType
  by_cases isTop : ty = .top
  · simp [isTop, Option.filter]
  · cases fits : ty.isSubtype base <;> simp [isTop, Option.filter]

theorem judgeType_eq_empty_iff {side : Side} {base ty : Ty} :
    judgeType ⟨side, false⟩ base ty = some .emptyNotAllowed ↔ ty = .top := by
  unfold judgeType
  by_cases isTop : ty = .top
  · simp [isTop]
  · cases fits : ty.isSubtype base <;> simp [isTop]

theorem judge_emptyAllowed (side : Side) (e : Expr) (ty : Ty) :
    judge ⟨side, true⟩ lookup declared e ty =
      (judge ⟨side, false⟩ lookup declared e ty).filter fun problem =>
        problem ≠ .emptyNotAllowed := by
  unfold judge
  split
  · next enumeration _ =>
    split
    · have kept := @judgeMembers_ne_empty lookup enumeration e
      cases judged : judgeMembers lookup enumeration e with
      | none => rfl
      | some problem =>
        rw [judged, ne_eq, Option.some.injEq] at kept
        simp [Option.filter, kept]
    · exact judgeType_emptyAllowed side _ _
  · exact judgeType_emptyAllowed side _ _

theorem judge_eq_empty_iff {side : Side} {e : Expr} {ty : Ty} :
    judge ⟨side, false⟩ lookup declared e ty = some .emptyNotAllowed ↔ ty = .top := by
  unfold judge
  split
  · split
    · next isString =>
      rw [Ty.isSubtype_string_iff] at isString
      subst isString
      exact iff_of_false judgeMembers_ne_empty (by simp)
    · exact judgeType_eq_empty_iff
  · exact judgeType_eq_empty_iff

theorem problem?_emptyAllowed (side : Side) :
    problem? ⟨side, true⟩ lookup context declared text =
      (problem? ⟨side, false⟩ lookup context declared text).filter fun problem =>
        problem ≠ .emptyNotAllowed := by
  unfold problem?
  cases Cell.parse text with
  | error problem => simp [Option.filter]
  | ok e =>
    cases typed : e.infer context with
    | error problem => simp [Option.filter, typed]
    | ok ty =>
      simp only [typed]
      exact judge_emptyAllowed side e ty

/-- A cell is reported as empty if it has the type of the empty cell, whatever its column declares. -/
theorem problem?_eq_empty_iff {side : Side} :
    problem? ⟨side, false⟩ lookup context declared text = some .emptyNotAllowed ↔
      ∃ e, Cell.parse text = .ok e ∧ e.infer context = .ok .top := by
  unfold problem?
  cases Cell.parse text with
  | error problem => simp
  | ok e =>
    cases typed : e.infer context with
    | error problem => simp [typed]
    | ok ty => simp [typed, judge_eq_empty_iff]

/-- What passes mentions only variables that the context knows, and no negation. -/
theorem exists_scoped {policy : EntryPolicy}
    (passes : policy.problem? lookup context declared text = none) :
    ∃ e, Cell.parse text = .ok e ∧
      (∀ name, .atom (.variable name) ∈ e.subtrees → context.type? name ≠ none) ∧
      ∀ negated, .unary .not negated ∉ e.subtrees := by
  rcases exists_typed_of_problem?_eq_none passes with ⟨e, ty, parsed, typed, _⟩
  exact ⟨e, parsed, fun name => Expr.type?_ne_none_of_infer typed,
    Expr.not_mem_subtrees_of_infer typed⟩

end EntryPolicy

/-! ## Findings about output cells -/

/-- An output cell is reported as empty if it has no condition, whatever its column declares. -/
theorem OutputColumn.problem?_eq_empty_iff {lookup : EnumLookup} {column : OutputColumn}
    {text : String} :
    column.problem? lookup false text = some .emptyNotAllowed ↔ Cell.Unconditional text :=
  EntryPolicy.problem?_eq_empty_iff.trans Cell.exists_infer_top_iff

def Finding.reportsEmpty (finding : Finding) : Bool :=
  finding.report.message = "Empty expression is not allowed."

theorem Finding.reportsEmpty_entry (problem : EntryProblem) (about : NumberedRule) :
    reportsEmpty ⟨.entry problem, about⟩ = decide (problem = .emptyNotAllowed) :=
  decide_eq_decide.mpr EntryProblem.message_eq_iff

namespace Validator

/-- The reports of empty cells about a rule, one for each cell without a condition. -/
theorem filter_outputFindings_empty (lookup : EnumLookup) (columns : List OutputColumn)
    (about : NumberedRule) :
    (outputFindings false lookup columns about).filter Finding.reportsEmpty =
      ((about.rule.outputEntries.zip columns).filter fun cell => Cell.Unconditional cell.1).map
        fun _ => ⟨.entry .emptyNotAllowed, about⟩ := by
  rw [outputFindings, List.filter_filterMap, ← List.filterMap_eq_filter, List.map_filterMap]
  congr 1
  funext ⟨text, column⟩
  have empty := @OutputColumn.problem?_eq_empty_iff lookup column text
  rw [OutputColumn.problem?] at empty
  cases found : (EntryPolicy.output false).problem? lookup .empty column.declaredType text with
  | none =>
    have conditional : ¬ Cell.Unconditional text := by simpa [found] using empty
    simp [found, Option.guard, conditional]
  | some problem =>
    rw [found, Option.some.injEq] at empty
    by_cases isEmpty : problem = .emptyNotAllowed
    · simp [found, Option.filter, Option.guard, Finding.reportsEmpty_entry, isEmpty,
        empty.mp isEmpty]
    · simp [found, Option.filter, Option.guard, Finding.reportsEmpty_entry, isEmpty, ← empty]

/-- To allow empty output cells takes away the reports of empty cells about a rule. -/
theorem outputFindings_emptyAllowed (lookup : EnumLookup) (columns : List OutputColumn)
    (about : NumberedRule) :
    outputFindings true lookup columns about =
      (outputFindings false lookup columns about).filter fun finding => !finding.reportsEmpty := by
  rw [outputFindings, outputFindings, List.filter_filterMap]
  congr 1
  funext ⟨text, column⟩
  have allowed := @EntryPolicy.problem?_emptyAllowed lookup column.declaredType .empty text .output
  simp only [EntryPolicy.output, allowed]
  cases EntryPolicy.problem? ⟨.output, false⟩ lookup .empty column.declaredType text with
  | none => rfl
  | some problem =>
    by_cases isEmpty : problem = .emptyNotAllowed <;>
      simp [Option.filter, Finding.reportsEmpty_entry, isEmpty]

end Validator

/-! ## Tables -/

/-- What the checks of cells promise about the variables and the empty cells of a table. -/
structure Table.Scoped (lookup : EnumLookup) (table : Table) : Prop where
  /-- An input cell that passes mentions no variable but that of its column, and no negation. -/
  inputs : ∀ emptyAllowed i j rule text column, table.rules[i]? = some rule →
    rule.inputEntries[j]? = some text → table.inputs[j]? = some column →
    ¬ table.Rejects lookup emptyAllowed ⟨.input, i, j⟩ →
      ∃ e, Cell.parse text = .ok e ∧
        (∀ name, .atom (.variable name) ∈ e.subtrees → name = column.variableName) ∧
        ∀ negated, .unary .not negated ∉ e.subtrees
  /-- An output cell that passes mentions no variable and no negation. -/
  outputs : ∀ emptyAllowed i j rule text column, table.rules[i]? = some rule →
    rule.outputEntries[j]? = some text → table.outputs[j]? = some column →
    ¬ table.Rejects lookup emptyAllowed ⟨.output, i, j⟩ →
      ∃ e, Cell.parse text = .ok e ∧ (∀ name, .atom (.variable name) ∉ e.subtrees) ∧
        ∀ negated, .unary .not negated ∉ e.subtrees
  /-- If output cells may not be empty, those without a condition are told so. -/
  emptyCell : ∀ column ∈ table.outputs, ∀ text,
    (column.problem? lookup false text).map EntryProblem.message =
        some "Empty expression is not allowed." ↔
      Text.trim text = "" ∨ Text.trim text = "-"
  /-- There are no other reports of this kind in a table. -/
  emptyReports : (Validator.findings lookup table (.outputEntryType false)).filter
      Finding.reportsEmpty =
    table.numberedRules.flatMap fun numbered =>
      ((numbered.rule.outputEntries.zip table.outputs).filter fun cell =>
        Text.trim cell.1 = "" ∨ Text.trim cell.1 = "-").map fun _ =>
          ⟨.entry .emptyNotAllowed, numbered⟩
  /-- If output cells may be empty, just these reports are missing. -/
  emptyAllowed : Validator.findings lookup table (.outputEntryType true) =
    (Validator.findings lookup table (.outputEntryType false)).filter fun finding =>
      !finding.reportsEmpty

/-- **Variables keep to their columns, and empty output cells are told by their texts.** -/
theorem Table.scoped (lookup : EnumLookup) (table : Table) : table.Scoped lookup := by
  constructor
  · intro emptyAllowed i j rule text column isRule isCell isColumn passes
    have noProblem : column.problem? lookup text = none := by
      rw [← Option.not_isSome_iff_eq_none]
      exact fun fails => passes (.input isRule isCell isColumn fails)
    rcases EntryPolicy.exists_scoped noProblem with ⟨e, parsed, known, noNegation⟩
    refine ⟨e, parsed, ?_, noNegation⟩
    intro name mentioned
    by_contra other
    apply known name mentioned
    rw [Context.type?_single, if_neg (Ne.symm other)]
  · intro emptyAllowed i j rule text column isRule isCell isColumn passes
    have noProblem : column.problem? lookup emptyAllowed text = none := by
      rw [← Option.not_isSome_iff_eq_none]
      exact fun fails => passes (.output isRule isCell isColumn fails)
    rcases EntryPolicy.exists_scoped noProblem with ⟨e, parsed, known, noNegation⟩
    exact ⟨e, parsed, fun name mentioned => known name mentioned rfl, noNegation⟩
  · intro column _ text
    rw [Option.map_eq_some_iff]
    simp only [EntryProblem.message_eq_iff, exists_eq_right]
    exact OutputColumn.problem?_eq_empty_iff
  · rw [Validator.findings, List.filter_flatMap]
    congr 1
    funext numbered
    exact Validator.filter_outputFindings_empty lookup table.outputs numbered
  · rw [Validator.findings, Validator.findings, List.filter_flatMap]
    congr 1
    funext numbered
    exact Validator.outputFindings_emptyAllowed lookup table.outputs numbered

end CellCheck
