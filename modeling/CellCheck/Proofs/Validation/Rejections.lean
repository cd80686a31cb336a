import CellCheck.Proofs.Validation.CheckedCells
import CellCheck.Proofs.Validation.Selection
import CellCheck.Proofs.Validation.Shadowing
import Mathlib.Algebra.BigOperators.Ring.Finset
import Mathlib.Data.Set.Card

/-!
# Rejected cells

A cell of a table has a place: the side on which it stands, its rule and its column.  A cell is
checked only if the table has a column at this place, so that of a rule with more cells than
columns the last ones are not, and neither is a column that a rule has no cell for.

The findings about cells are counted here against the places of the cells.  Each rejected cell gives
one finding and no cell gives two, so the number of errors in a table is the number of places with a
rejected cell.  Shadowed rules are reported by warnings, which are no errors.
-/

namespace CellCheck

/-! ## Places in a list -/

section Places

variable {α β : Type}

/-- What the elements of a list offer, each with the place of the element that offers it. -/
def placed (offer : α → Set β) (xs : List α) : Set (Nat × β) :=
  {place | ∃ x, xs[place.1]? = some x ∧ place.2 ∈ offer x}

theorem placed_cons (offer : α → Set β) (x : α) (xs : List α) :
    placed offer (x :: xs) =
      Set.image (Prod.mk 0) (offer x) ∪ Set.image (Prod.map Nat.succ id) (placed offer xs) := by
  ext ⟨index, b⟩
  cases index <;> simp [placed]

/-- The places in a list with offers are counted element by element. -/
theorem encard_placed (offer : α → Set β) (xs : List α) :
    (placed offer xs).encard = (xs.map fun x => (offer x).encard).sum := by
  induction xs with
  | nil => simp [placed]
  | cons x xs ih =>
    have apart : Disjoint (Set.image (Prod.mk 0) (offer x))
        (Set.image (Prod.map Nat.succ id) (placed offer xs)) := by
      rw [Set.disjoint_left]
      rintro _ ⟨_, _, rfl⟩ ⟨⟨index, b⟩, _, same⟩
      exact absurd (congrArg Prod.fst same) (Nat.succ_ne_zero index)
    have later : Function.Injective (Prod.map Nat.succ (id : β → β)) :=
      Nat.succ_injective.prodMap Function.injective_id
    rw [placed_cons, Set.encard_union_eq apart, (Prod.mk_right_injective 0).encard_image,
      later.encard_image, ih, List.map_cons, List.sum_cons]

theorem encard_places (p : α → Bool) (xs : List α) :
    {index : Nat | ∃ x, xs[index]? = some x ∧ p x = true}.encard = xs.countP p := by
  have counted : (xs.map fun x => {_u : Unit | p x = true}.encard).sum = xs.countP p := by
    induction xs with
    | nil => simp
    | cons x xs ih =>
      rw [List.map_cons, List.sum_cons, ih, List.countP_cons]
      cases holds : p x <;> simp [add_comm]
  -- An element with the property offers one thing, so that the places are those of all offers.
  have offered : Set.image (fun index => (index, ()))
      {index : Nat | ∃ x, xs[index]? = some x ∧ p x = true} =
        placed (fun x => {_u : Unit | p x = true}) xs := by
    ext ⟨index, _⟩
    simp [placed]
  rw [← (Prod.mk_left_injective ()).encard_image, offered, encard_placed, counted]

end Places

/-! ## Cells that do not pass -/

theorem EntryPolicy.problem?_string {policy : EntryPolicy} {lookup : EnumLookup}
    {declared : DeclaredType} {text value enumeration : String} {members : List String}
    (read : Cell.parse text = .ok (.atom (.string value)))
    (isEnumeration : declared.enumeration = some enumeration)
    (isKnown : lookup enumeration = some members) (context : Context) :
    policy.problem? lookup context declared text =
      if value ∈ members then none else some (.notMember value enumeration) := by
  have typed : (Expr.atom (.string value)).infer context = .ok .string := rfl
  have isString : Ty.isSubtype .string .string = true := rfl
  simp only [problem?, read, typed, judge, isEnumeration, isString, if_true, judgeMembers, isKnown,
    Expr.alternativeStrings]
  by_cases member : value ∈ members <;> simp [member]

/-- What is wrong with a cell of an input column, which may mention the variable of the column. -/
def InputColumn.problem? (lookup : EnumLookup) (column : InputColumn) (text : String) :
    Option EntryProblem :=
  EntryPolicy.input.problem? lookup (.single column.variableName column.declaredType.base)
    column.declaredType text

/-- What is wrong with a cell of an output column, which may mention no variable. -/
def OutputColumn.problem? (lookup : EnumLookup) (emptyAllowed : Bool) (column : OutputColumn)
    (text : String) : Option EntryProblem :=
  (EntryPolicy.output emptyAllowed).problem? lookup .empty column.declaredType text

/-- A place in a table, with its rule and its column counted from zero. -/
structure CellPlace where
  side : Side
  rule : Nat
  column : Nat
deriving DecidableEq, Repr

/-- The places at which a table has a cell that does not pass the check of its column. -/
@[mk_iff]
inductive Table.Rejects (table : Table) (lookup : EnumLookup) (emptyAllowed : Bool) :
    CellPlace → Prop
  | input {i j : Nat} {rule : Rule} {text : String} {column : InputColumn}
      (isRule : table.rules[i]? = some rule) (isCell : rule.inputEntries[j]? = some text)
      (isColumn : table.inputs[j]? = some column)
      (fails : (column.problem? lookup text).isSome = true) :
      Rejects table lookup emptyAllowed ⟨.input, i, j⟩
  | output {i j : Nat} {rule : Rule} {text : String} {column : OutputColumn}
      (isRule : table.rules[i]? = some rule) (isCell : rule.outputEntries[j]? = some text)
      (isColumn : table.outputs[j]? = some column)
      (fails : (column.problem? lookup emptyAllowed text).isSome = true) :
      Rejects table lookup emptyAllowed ⟨.output, i, j⟩

/-- Which of some cells do not pass. -/
def failing (lookup : EnumLookup) (cells : List CheckedCell) : Set Nat :=
  {index | ∃ cell, cells[index]? = some cell ∧ (cell.problem? lookup).isSome = true}

namespace Table

theorem getElem?_numberedRules (table : Table) (index : Nat) :
    table.numberedRules[index]? = table.rules[index]?.map fun rule => ⟨index, rule⟩ := by
  rw [numberedRules, List.getElem?_map, List.getElem?_zipIdx, Nat.zero_add, Option.map_map]
  rfl

/-- The rejected places of a side are the places of the checked cells that do not pass. -/
theorem rejects_iff_mem_placed {table : Table} {lookup : EnumLookup} {emptyAllowed : Bool}
    {side : Side} {i j : Nat} :
    table.Rejects lookup emptyAllowed ⟨side, i, j⟩ ↔
      (i, j) ∈ placed (fun about =>
        failing lookup ((side.validator emptyAllowed).cellsOf table about)) table.numberedRules := by
  cases side <;>
    simp [rejects_iff, placed, failing, getElem?_numberedRules, Side.validator, Validator.cellsOf,
      List.getElem?_zip_eq_some, and_assoc, CheckedCell.problem?, InputColumn.problem?,
      OutputColumn.problem?]

end Table

/-! ## Counting findings -/

def countErrors (findings : List Finding) : Nat :=
  findings.countP fun finding => finding.report.isError

theorem countErrors_nil : countErrors [] = 0 := rfl

theorem countErrors_append (first second : List Finding) :
    countErrors (first ++ second) = countErrors first + countErrors second :=
  List.countP_append

/-- Every cell that does not pass gives one error. -/
theorem countErrors_filterMap_cells (lookup : EnumLookup) (cells : List CheckedCell) :
    (countErrors (cells.filterMap (CheckedCell.finding? lookup)) : ℕ∞) =
      (failing lookup cells).encard := by
  rw [failing, encard_places, countErrors, List.countP_filterMap]
  congr 2
  funext cell
  rw [CheckedCell.finding?]
  cases cell.problem? lookup <;> rfl

theorem countErrors_shadowedRule (lookup : EnumLookup) (table : Table) :
    countErrors (Validator.findings lookup table .shadowedRule) = 0 := by
  rw [countErrors, List.countP_eq_zero]
  intro finding found
  rcases Validator.mem_shadowFindings_iff.mp found with ⟨_, _, _, _, _, _, rfl⟩
  exact Bool.false_ne_true

/-- The validator for a side gives as many errors as there are cells on this side that do not
pass. -/
theorem countErrors_validator (lookup : EnumLookup) (table : Table) (emptyAllowed : Bool)
    (side : Side) :
    (countErrors (Validator.findings lookup table (side.validator emptyAllowed)) : ℕ∞) =
      {place : Nat × Nat | table.Rejects lookup emptyAllowed ⟨side, place.1, place.2⟩}.encard := by
  have checksCells := side.validator_ne_shadowedRule emptyAllowed
  simp only [Table.rejects_iff_mem_placed, Prod.mk.eta, Set.ofPred_mem_eq, encard_placed]
  rw [Validator.findings_eq_filterMap_cells lookup table checksCells, Validator.cells,
    List.filterMap_flatMap]
  induction table.numberedRules with
  | nil => rfl
  | cons rule rules ih =>
    rw [List.flatMap_cons, countErrors_append, Nat.cast_add, ih, countErrors_filterMap_cells,
      List.map_cons, List.sum_cons]

/-! ## Configurations -/

namespace Config

/-- Whether the validator for the cells on a side is selected. -/
def Checks (config : Config) (side : Side) : Prop :=
  config.selected = [] ∨ (side.validator config.allowEmptyOutputs).name ∈ config.selected

instance (config : Config) (side : Side) : Decidable (config.Checks side) :=
  inferInstanceAs (Decidable (_ ∨ _))

/-- The places at which a configuration rejects a cell of a table. -/
def rejected (config : Config) (lookup : EnumLookup) (table : Table) : Set CellPlace :=
  {place | config.Checks place.side ∧ table.Rejects lookup config.allowEmptyOutputs place}

def errorsOn (config : Config) (lookup : EnumLookup) (table : Table) (side : Side) : Nat :=
  if config.Checks side then
    countErrors (Validator.findings lookup table (side.validator config.allowEmptyOutputs))
  else 0

variable {config : Config}

theorem encard_rejected_on (lookup : EnumLookup) (table : Table) (side : Side) :
    {place : Nat × Nat | ⟨side, place.1, place.2⟩ ∈ config.rejected lookup table}.encard =
      config.errorsOn lookup table side := by
  simp only [rejected, Set.mem_ofPred_eq, errorsOn]
  by_cases checks : config.Checks side
  · simp only [checks, true_and, if_true, countErrors_validator]
  · simp [checks]

theorem encard_rejected (lookup : EnumLookup) (table : Table) :
    (config.rejected lookup table).encard =
      config.errorsOn lookup table .input + config.errorsOn lookup table .output := by
  let onSide (side : Side) (place : Nat × Nat) : CellPlace := ⟨side, place.1, place.2⟩
  have injective : ∀ side, Function.Injective (onSide side) := by
    rintro side ⟨i, j⟩ ⟨i', j'⟩ same
    cases same
    rfl
  have split : config.rejected lookup table =
      Set.image (onSide .input) {place | onSide .input place ∈ config.rejected lookup table} ∪
        Set.image (onSide .output) {place | onSide .output place ∈ config.rejected lookup table} := by
    ext ⟨side, i, j⟩
    cases side <;> simp [onSide]
  have apart : Disjoint
      (Set.image (onSide .input) {place | onSide .input place ∈ config.rejected lookup table})
      (Set.image (onSide .output) {place | onSide .output place ∈ config.rejected lookup table}) := by
    rw [Set.disjoint_left]
    rintro _ ⟨_, _, rfl⟩ ⟨_, _, same⟩
    cases same
  rw [split, Set.encard_union_eq apart, (injective .input).encard_image,
    (injective .output).encard_image]
  exact congrArg₂ _ (encard_rejected_on lookup table .input)
    (encard_rejected_on lookup table .output)

theorem checks_iff {side : Side} :
    config.Checks side ↔ (config.selected.isEmpty ||
      config.selected.contains (side.validator config.allowEmptyOutputs).name) = true := by
  simp [Checks]

/-- **Every rejected cell gives one error, and there are no other errors.** -/
theorem Known.countErrors_findings (known : config.Known) {validators : List Validator}
    (chosen : config.validators = .ok validators) (lookup : EnumLookup) (table : Table) :
    (countErrors (table.findings lookup validators) : ℕ∞) =
      (config.rejected lookup table).encard := by
  have filtered := Except.ok.inj (chosen.symm.trans known.validators_eq)
  rw [encard_rejected, filtered, Table.findings, ← Nat.cast_add, Nat.cast_inj]
  simp only [errorsOn, checks_iff, registered, Side.validator, List.filter_cons, List.filter_nil]
  generalize (config.selected.isEmpty ||
    config.selected.contains Validator.inputEntryType.name) = inputs
  generalize (config.selected.isEmpty || config.selected.contains
    (Validator.outputEntryType config.allowEmptyOutputs).name) = outputs
  generalize (config.selected.isEmpty ||
    config.selected.contains Validator.shadowedRule.name) = shadows
  cases inputs <;> cases outputs <;> cases shadows <;>
    simp [countErrors_append, countErrors_nil, countErrors_shadowedRule]

/-- The cells that a configuration rejects in some tables, each with the place of its table. -/
def rejectedIn (config : Config) (lookup : EnumLookup) (tables : List Table) :
    Set (Nat × CellPlace) :=
  {cell | ∃ table, tables[cell.1]? = some table ∧ cell.2 ∈ config.rejected lookup table}

theorem rejectedIn_eq_empty_iff {lookup : EnumLookup} {tables : List Table} :
    config.rejectedIn lookup tables = ∅ ↔
      ∀ table ∈ tables, ∀ place, place ∉ config.rejected lookup table := by
  rw [Set.eq_empty_iff_forall_notMem]
  constructor
  · intro noCell table member place isRejected
    rcases List.mem_iff_getElem?.mp member with ⟨index, isTable⟩
    exact noCell (index, place) ⟨table, isTable, isRejected⟩
  · rintro noCell ⟨index, place⟩ ⟨table, isTable, isRejected⟩
    exact noCell table (List.mem_of_getElem? isTable) place isRejected

theorem Known.encard_rejectedIn (known : config.Known) {validators : List Validator}
    (chosen : config.validators = .ok validators) (lookup : EnumLookup) (tables : List Table) :
    (config.rejectedIn lookup tables).encard =
      (tables.map fun table => countErrors (table.findings lookup validators)).sum := by
  rw [Nat.cast_list_sum, List.map_map]
  refine (encard_placed (config.rejected lookup) tables).trans ?_
  congr 1
  exact List.map_congr_left fun table _ => (known.countErrors_findings chosen lookup table).symm

end Config
end CellCheck
