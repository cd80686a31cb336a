import CellCheck.Proofs.Validation.CheckedCells
import CellCheck.Proofs.Validation.Members
import Mathlib.Algebra.Order.BigOperators.Group.List
import Mathlib.Algebra.Order.Group.Nat

/-!
# More enumerations

The checks of a table ask for enumerations at one place only.  A cell with the type of the strings, in
the column of an enumeration, needs the members of this enumeration, and no other cell and no search
for shadowed rules asks for any.

When more enumerations become known, or more members of them, this can only help.  A cell that passes
has found its enumeration and all of its strings in it, and finds them still.  A cell that does not
pass may come to pass, or be told something else: an enumeration that has not been known before may
turn out to lack the string.  So the findings become no more, and those that cannot depend on members
stay as they are.
-/

namespace CellCheck

/-- Whether a lookup knows every enumeration that another one knows, with at least the same
members. -/
def EnumLookup.Extends (larger lookup : EnumLookup) : Prop :=
  ∀ name members, lookup name = some members → ∃ more, larger name = some more ∧ members ⊆ more

/-! ## One cell -/

namespace EntryPolicy

variable {policy : EntryPolicy} {lookup larger : EnumLookup} {declared : DeclaredType} {e : Expr}
  {ty : Ty}

theorem judgeMembers_of_extends (extension : larger.Extends lookup) {name : String}
    (passes : judgeMembers lookup name e = none) : judgeMembers larger name e = none := by
  rcases judgeMembers_eq_none_iff.mp passes with ⟨members, known, all⟩
  rcases extension name members known with ⟨more, knownStill, included⟩
  exact judgeMembers_eq_none_iff.mpr
    ⟨more, knownStill, fun value member => included (all value member)⟩

/-- What passes still does if more is known. -/
theorem judge_of_extends (extension : larger.Extends lookup)
    (passes : policy.judge lookup declared e ty = none) :
    policy.judge larger declared e ty = none := by
  unfold judge at passes ⊢
  split
  · next enumeration isEnumeration =>
    simp only [isEnumeration] at passes
    split
    · next isString =>
      rw [if_pos isString] at passes
      exact judgeMembers_of_extends extension passes
    · next notString => rwa [if_neg notString] at passes
  · next noEnumeration => simpa only [noEnumeration] using passes

/-- Without an enumeration, and for all types but that of the strings, nothing is asked for. -/
theorem judge_lookup_congr (noMembers : declared.enumeration = none ∨ ty ≠ .string)
    (lookup larger : EnumLookup) :
    policy.judge larger declared e ty = policy.judge lookup declared e ty := by
  unfold judge
  split
  · next enumeration isEnumeration =>
    rw [isEnumeration] at noMembers
    have notString : ¬ ty.isSubtype .string = true := by
      rw [Ty.isSubtype_string_iff]
      exact noMembers.resolve_left (Option.some_ne_none enumeration)
    rw [if_neg notString, if_neg notString]
  · rfl

end EntryPolicy

/-! ## The cells of a table -/

namespace CheckedCell

/-- The type of the cell, if it parses and has one. -/
def type? (cell : CheckedCell) : Option Ty :=
  match Cell.parse cell.text with
  | .error _ => none
  | .ok e => (e.infer cell.context).toOption

/-- Whether the cell has the type of the strings and stands in the column of an enumeration. -/
def asksForMembers (cell : CheckedCell) : Bool :=
  cell.declared.enumeration.isSome && cell.type? = some .string

variable {lookup larger : EnumLookup} {cell : CheckedCell}

theorem problem?_of_extends (extension : larger.Extends lookup)
    (passes : cell.problem? lookup = none) : cell.problem? larger = none := by
  rcases EntryPolicy.exists_typed_of_problem?_eq_none passes with ⟨e, ty, parsed, typed, judged⟩
  rw [problem?, EntryPolicy.problem?_eq_judge parsed typed]
  exact EntryPolicy.judge_of_extends extension judged

/-- A cell that does not ask for members has the same finding whatever is known. -/
theorem finding?_congr (noMembers : cell.asksForMembers = false) (lookup larger : EnumLookup) :
    cell.finding? larger = cell.finding? lookup := by
  suffices cell.problem? larger = cell.problem? lookup by rw [finding?, finding?, this]
  unfold problem? EntryPolicy.problem?
  unfold asksForMembers type? at noMembers
  cases parsed : Cell.parse cell.text with
  | error problem => rfl
  | ok e =>
    cases typed : e.infer cell.context with
    | error problem => simp only [typed]
    | ok ty =>
      simp only [typed]
      apply EntryPolicy.judge_lookup_congr
      simpa [parsed, typed, Except.toOption, or_iff_not_imp_left,
        Option.isSome_iff_ne_none] using noMembers

end CheckedCell

namespace Validator

theorem length_findings_le_of_extends {lookup larger : EnumLookup}
    (extension : larger.Extends lookup) (table : Table) (v : Validator) :
    (findings larger table v).length ≤ (findings lookup table v).length := by
  by_cases checksCells : v ≠ .shadowedRule
  · rw [findings_eq_filterMap_cells larger table checksCells,
      findings_eq_filterMap_cells lookup table checksCells, List.length_filterMap_eq_countP,
      List.length_filterMap_eq_countP]
    apply List.countP_mono_left
    intro cell _ fails
    simp only [CheckedCell.isSome_finding?, Option.isSome_iff_ne_none] at fails ⊢
    exact fun passes => fails (CheckedCell.problem?_of_extends extension passes)
  · rw [not_not.mp checksCells]
    exact Nat.le_refl _

end Validator

/-! ## Tables -/

/-- What the findings of some validators under two lookups have to do with each other if no cell is
worse off under the second one. -/
structure Table.OnlyImproves (table : Table) (validators : List Validator)
    (lookup larger : EnumLookup) : Prop where
  /-- Whatever is known, the findings are about cells, one for each cell at most, or about shadowed
  rules. -/
  ofCells : ∀ known, ∀ v ∈ validators, v ≠ .shadowedRule →
    Validator.findings known table v = (v.cells table).filterMap (CheckedCell.finding? known)
  /-- What passes still does. -/
  passing : ∀ v ∈ validators, ∀ cell ∈ v.cells table,
    cell.finding? lookup = none → cell.finding? larger = none
  shadowed : Validator.findings larger table .shadowedRule =
    Validator.findings lookup table .shadowedRule
  /-- The cells that do not ask for members have the same findings in the same order. -/
  others : ∀ v ∈ validators,
    ((v.cells table).filter fun cell => !cell.asksForMembers).filterMap
        (CheckedCell.finding? larger) =
      ((v.cells table).filter fun cell => !cell.asksForMembers).filterMap
        (CheckedCell.finding? lookup)
  length_le : (table.findings larger validators).length ≤ (table.findings lookup validators).length

/-- **To add enumerations or members never makes a finding.**  Findings about cells that ask for members
may go away or say something else, and all others stay as they are. -/
theorem Table.findings_of_extends {lookup larger : EnumLookup} (extension : larger.Extends lookup)
    (table : Table) (validators : List Validator) :
    table.OnlyImproves validators lookup larger := by
  constructor
  · exact fun known v _ checksCells => Validator.findings_eq_filterMap_cells known table checksCells
  · intro v _ cell _ passes
    rw [CheckedCell.finding?, Option.map_eq_none_iff] at passes ⊢
    exact CheckedCell.problem?_of_extends extension passes
  · rfl
  · intro v _
    apply List.filterMap_congr
    intro cell member
    have noMembers : cell.asksForMembers = false := by simpa using (List.mem_filter.mp member).2
    exact CheckedCell.finding?_congr noMembers lookup larger
  · rw [findings, findings, List.length_flatMap, List.length_flatMap]
    apply List.sum_le_sum
    intro v _
    exact Validator.length_findings_le_of_extends extension table v

/-- With `Stew` among the dishes and with seasons at all, one of two findings goes away.  The other one
stays, about a member that is missing and no longer about the enumeration. -/
theorem Table.findings_of_extends_dishes :
    let lookup : EnumLookup := fun name => if name = "Dish" then some ["Steak"] else none
    let larger : EnumLookup := fun name =>
      if name = "Dish" then some ["Steak", "Stew"]
      else if name = "Season" then some ["Summer"] else none
    let rule : Rule := ⟨"only", [], ["\"Stew\"", "\"Winter\""]⟩
    let table : Table := ⟨none, [], [⟨none, some "Dish"⟩, ⟨none, some "Season"⟩], [rule]⟩
    larger.Extends lookup ∧
      table.findings lookup [.outputEntryType true] =
        [⟨.entry (.notMember "Stew" "Dish"), ⟨0, rule⟩⟩,
          ⟨.entry (.unknownEnumeration "Season"), ⟨0, rule⟩⟩] ∧
      table.findings larger [.outputEntryType true] =
        [⟨.entry (.notMember "Winter" "Season"), ⟨0, rule⟩⟩] ∧
      table.OnlyImproves [.outputEntryType true] lookup larger := by
  intro lookup larger rule table
  have extension : larger.Extends lookup := by
    intro name members known
    simp only [lookup] at known
    split at known
    · next isDish =>
      cases known
      exact ⟨["Steak", "Stew"], by simp only [larger, if_pos isDish], by simp⟩
    · cases known
  have judged : ∀ (text value name : String), (Expr.atom (.string value)).print = text →
      value.toList.getLast? ≠ some '\\' → ∀ known,
      (CheckedCell.mk ⟨0, rule⟩ (.output true) .empty (.ofEnumeration name) text).problem? known =
        (EntryPolicy.output true).judge known (.ofEnumeration name) (.atom (.string value))
          .string := by
    intro text value name printed closed known
    exact EntryPolicy.problem?_eq_judge (Grammar.parse_string closed printed) rfl
  let stew : CheckedCell :=
    ⟨⟨0, rule⟩, .output true, .empty, .ofEnumeration "Dish", "\"Stew\""⟩
  let winter : CheckedCell :=
    ⟨⟨0, rule⟩, .output true, .empty, .ofEnumeration "Season", "\"Winter\""⟩
  have stewJudged := judged "\"Stew\"" "Stew" "Dish" (by decide +kernel) (by decide)
  have winterJudged := judged "\"Winter\"" "Winter" "Season" (by decide +kernel) (by decide)
  have found : ∀ known, table.findings known [.outputEntryType true] =
      [stew, winter].filterMap (CheckedCell.finding? known) := by
    intro known
    have cells : Validator.cells table (.outputEntryType true) = [stew, winter] := by
      decide +kernel
    rw [findings, List.flatMap_singleton,
      Validator.findings_eq_filterMap_cells known table (by decide), cells]
  refine ⟨extension, ?_, ?_, findings_of_extends extension table _⟩
  all_goals
    rw [found]
    simp only [stew, winter, List.filterMap_cons, CheckedCell.finding?, stewJudged, winterJudged]
    decide +kernel

end CellCheck
