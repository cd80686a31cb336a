import CellCheck.Subsumption
import CellCheck.Table.Basic
import CellCheck.Validation.Entry
import CellCheck.Validation.Report

/-!
# Validators

A validator looks at a whole table and gives findings, each about one rule.  There are three: the
input cells and the output cells are checked against their columns, and a rule is reported if an
earlier rule subsumes it in every input cell.  Only the cells that have a column are checked.

The first validator also warns about rules whose number of input cells is not the number of input
columns.  These warnings are no findings; they belong to the log of a run.
-/

namespace CellCheck

/-- What a finding says about its rule. -/
inductive Problem where
  | entry (problem : EntryProblem)
  | shadowed (earlier : NumberedRule)
deriving DecidableEq, Repr

structure Finding where
  problem : Problem
  about : NumberedRule
deriving DecidableEq, Repr

def EntryProblem.report (problem : EntryProblem) : Report := ⟨.error, problem.message⟩

def Problem.report : Problem → Report
  | entry problem => problem.report
  | shadowed rule => ⟨.warning, "Rule is shadowed by rule " ++ rule.rule.id⟩

def Finding.report (finding : Finding) : Report := finding.problem.report

/-- A rule with another number of input cells than the table has input columns. -/
structure CountWarning where
  rule : Rule
  columns : Nat
deriving DecidableEq, Repr

def CountWarning.message (warning : CountWarning) : String :=
  "Rule " ++ warning.rule.id ++ " has " ++ toString warning.rule.inputEntries.length ++
    " input entries for " ++ toString warning.columns ++ " inputs"

inductive Validator where
  | inputEntryType
  | outputEntryType (emptyAllowed : Bool)
  | shadowedRule
deriving DecidableEq, Repr

namespace Validator

def name : Validator → String
  | inputEntryType => "input-entry-type"
  | outputEntryType _ => "output-entry-type"
  | shadowedRule => "shadowed-rule"

/-! ## Cells -/

/-- The findings about the input cells of a rule.  A cell may mention the variable of its own
column. -/
def inputFindings (lookup : EnumLookup) (columns : List InputColumn) (about : NumberedRule) :
    List Finding :=
  (about.rule.inputEntries.zip columns).filterMap fun (text, column) =>
    let declared := column.declaredType
    let context := Context.single column.variableName declared.base
    (EntryPolicy.input.problem? lookup context declared text).map fun problem =>
      ⟨.entry problem, about⟩

/-- The findings about the output cells of a rule, which may mention no variable. -/
def outputFindings (emptyAllowed : Bool) (lookup : EnumLookup) (columns : List OutputColumn)
    (about : NumberedRule) : List Finding :=
  (about.rule.outputEntries.zip columns).filterMap fun (text, column) =>
    ((EntryPolicy.output emptyAllowed).problem? lookup Context.empty column.declaredType text).map
      fun problem => ⟨.entry problem, about⟩

/-! ## Shadowed rules -/

/-- A rule with the expressions of its input cells. -/
structure ParsedRule where
  numbered : NumberedRule
  inputs : List Expr
deriving DecidableEq

/-- The rule with its expressions, if all of its input cells parse. -/
def parsedRule? (numbered : NumberedRule) : Option ParsedRule :=
  match (Cell.parseAll numbered.rule.inputEntries).1 with
  | .ok inputs => some ⟨numbered, inputs⟩
  | .error _ => none

/-- Whether one rule subsumes another in every input cell. -/
def ParsedRule.shadows (outer inner : ParsedRule) : Bool :=
  outer.inputs.length = inner.inputs.length &&
    (outer.inputs.zip inner.inputs).all fun (x, y) => x.subsumes y = some true

/-- The findings about rules that come after the given ones: each rule is compared with those
before it, and the first that shadows it is named. -/
def shadowFindings (earlier : List ParsedRule) : List ParsedRule → List Finding
  | [] => []
  | rule :: later =>
    let finding := (earlier.find? fun outer => outer.shadows rule).map fun outer =>
      Finding.mk (.shadowed outer.numbered) rule.numbered
    finding.toList ++ shadowFindings (earlier ++ [rule]) later

/-! ## Tables -/

/-- The findings of a validator.  Rules with an unparsable input cell take no part in the search for
shadowed rules. -/
def findings (lookup : EnumLookup) (table : Table) : Validator → List Finding
  | inputEntryType => table.numberedRules.flatMap (inputFindings lookup table.inputs)
  | outputEntryType emptyAllowed =>
    table.numberedRules.flatMap (outputFindings emptyAllowed lookup table.outputs)
  | shadowedRule => shadowFindings [] (table.numberedRules.filterMap parsedRule?)

/-- The warnings that a validator gives beside its findings. -/
def warnings (table : Table) : Validator → List CountWarning
  | inputEntryType =>
    (table.rules.filter fun rule => rule.inputEntries.length ≠ table.inputs.length).map fun rule =>
      ⟨rule, table.inputs.length⟩
  | _ => []

end Validator

/-- The findings of some validators, one validator after the other. -/
def Table.findings (table : Table) (lookup : EnumLookup) (validators : List Validator) :
    List Finding :=
  validators.flatMap (Validator.findings lookup table)

def Table.warnings (table : Table) (validators : List Validator) : List CountWarning :=
  validators.flatMap (Validator.warnings table)

end CellCheck
