import CellCheck.Validation.Validator
import Mathlib.Data.List.Basic

/-!
# Checked cells

The validators for input cells and for output cells do the same thing in two places: each goes through
the cells of the rules that have a column, and has one finding about a cell that does not pass.  They
differ in where they find the cells and in what a cell is checked by.

A checked cell carries what its check depends on, so that the findings of both validators come from
lists of such cells.  What is said about these findings, about their number or about the rules that
they depend on is then said once for both sides of a table.
-/

namespace CellCheck

/-- A cell, and by what it is checked. -/
structure CheckedCell where
  about : NumberedRule
  policy : EntryPolicy
  context : Context
  declared : DeclaredType
  text : String
deriving DecidableEq, Repr

namespace CheckedCell

def problem? (lookup : EnumLookup) (cell : CheckedCell) : Option EntryProblem :=
  cell.policy.problem? lookup cell.context cell.declared cell.text

def finding? (lookup : EnumLookup) (cell : CheckedCell) : Option Finding :=
  (cell.problem? lookup).map fun problem => ⟨.entry problem, cell.about⟩

theorem isSome_finding? {lookup : EnumLookup} {cell : CheckedCell} :
    (cell.finding? lookup).isSome = (cell.problem? lookup).isSome :=
  Option.isSome_map

end CheckedCell

/-- The validator for the cells on a side. -/
def Side.validator (emptyAllowed : Bool) : Side → Validator
  | .input => .inputEntryType
  | .output => .outputEntryType emptyAllowed

theorem Side.validator_ne_shadowedRule (side : Side) (emptyAllowed : Bool) :
    side.validator emptyAllowed ≠ .shadowedRule := by
  cases side <;> exact Validator.noConfusion

namespace Validator

/-- The cells of one rule that a validator checks. -/
def cellsOf (table : Table) (about : NumberedRule) : Validator → List CheckedCell
  | inputEntryType => (about.rule.inputEntries.zip table.inputs).map fun (text, column) =>
    ⟨about, .input, .single column.variableName column.declaredType.base, column.declaredType, text⟩
  | outputEntryType emptyAllowed =>
    (about.rule.outputEntries.zip table.outputs).map fun (text, column) =>
      ⟨about, .output emptyAllowed, .empty, column.declaredType, text⟩
  | shadowedRule => []

/-- The cells that a validator checks, in the order of its findings. -/
def cells (table : Table) (v : Validator) : List CheckedCell :=
  table.numberedRules.flatMap fun about => v.cellsOf table about

/-- A validator that checks cells finds something about them only. -/
theorem findings_eq_filterMap_cells (lookup : EnumLookup) (table : Table) {v : Validator}
    (checksCells : v ≠ .shadowedRule) :
    findings lookup table v = (v.cells table).filterMap (CheckedCell.finding? lookup) := by
  cases v with
  | shadowedRule => exact absurd rfl checksCells
  | inputEntryType | outputEntryType emptyAllowed =>
    simp only [findings, cells, cellsOf, List.filterMap_flatMap, List.filterMap_map]
    rfl

theorem about_of_mem_cellsOf {table : Table} {about : NumberedRule} {v : Validator}
    {cell : CheckedCell} (member : cell ∈ v.cellsOf table about) : cell.about = about := by
  cases v with
  | shadowedRule => cases member
  | inputEntryType | outputEntryType emptyAllowed =>
    rcases List.mem_map.mp member with ⟨_, _, rfl⟩
    rfl

/-- The cells of some rules are selected by selecting the rules. -/
theorem filter_cells (p : NumberedRule → Bool) (table : Table) (v : Validator) :
    ((v.cells table).filter fun cell => p cell.about) =
      (table.numberedRules.filter p).flatMap fun about => v.cellsOf table about := by
  rw [cells]
  induction table.numberedRules with
  | nil => rfl
  | cons rule rules ih =>
    -- The cells of one rule are all about it, so they stay or go together.
    have own : ((v.cellsOf table rule).filter fun cell => p cell.about) =
        (v.cellsOf table rule).filter fun _ => p rule :=
      List.filter_congr fun cell member => by rw [about_of_mem_cellsOf member]
    rw [List.flatMap_cons, List.filter_append, ih, own]
    cases selected : p rule <;> simp [selected]

/-- The findings about the cells of some rules depend on these rules and on the columns. -/
theorem filter_findings_cells {p : NumberedRule → Bool} {table table' : Table}
    (sameInputs : table'.inputs = table.inputs) (sameOutputs : table'.outputs = table.outputs)
    (sameRules : table'.numberedRules.filter p = table.numberedRules.filter p)
    (lookup : EnumLookup) {v : Validator} (checksCells : v ≠ .shadowedRule) :
    ((findings lookup table' v).filter fun finding => p finding.about) =
      (findings lookup table v).filter fun finding => p finding.about := by
  have selected : ∀ table, ((findings lookup table v).filter fun finding => p finding.about) =
      ((v.cells table).filter fun cell => p cell.about).filterMap (CheckedCell.finding? lookup) := by
    intro table
    rw [findings_eq_filterMap_cells lookup table checksCells, List.filter_filterMap,
      List.filterMap_filter]
    congr 1
    funext cell
    rw [CheckedCell.finding?]
    cases cell.problem? lookup with
    | none => simp
    | some problem => cases selected : p cell.about <;> simp [Option.filter, selected]
  have sameCells : ∀ about, v.cellsOf table' about = v.cellsOf table about := by
    intro about
    cases v <;> simp only [cellsOf, sameInputs, sameOutputs]
  rw [selected, selected, filter_cells, filter_cells, sameRules]
  simp only [sameCells]

end Validator
end CellCheck
