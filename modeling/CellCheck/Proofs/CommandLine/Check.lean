import CellCheck.CommandLine.Run
import CellCheck.Proofs.CommandLine.Arguments
import CellCheck.Proofs.Printing.RoundTrip
import CellCheck.Proofs.Validation.Rejections

/-!
# Checking tables from the command line

A check reads its tables one after the other and counts the errors in them.  It succeeds if every
file holds a table and no cell in any table is rejected, and its failure names the number of rejected
cells otherwise.  Warnings about shadowed rules are written to the log and count for nothing.
-/

namespace CellCheck

theorem FileContent.text_toUTF8 (text : String) :
    FileContent.text (some text.toUTF8) = .ok text := by
  have decoded : String.fromUTF8? text.toUTF8 = some text := dif_pos text.isValidUTF8
  rw [FileContent.text, Option.bind_some, decoded]

theorem Table.ofFile_toUTF8 {text : String} {table : Table} (holds : ofText? text = some table) :
    ofFile (some text.toUTF8) = .ok table := by
  rw [ofFile, FileContent.text_toUTF8]
  simp only [bind, Except.bind, holds]
  rfl

theorem Enumerations.ofFile_toUTF8 {text : String} {enumerations : Enumerations}
    (holds : ofText? text = some enumerations) :
    ofFile (some text.toUTF8) = .ok enumerations := by
  rw [ofFile, FileContent.text_toUTF8]
  simp only [bind, Except.bind, holds]
  rfl

namespace Command

/-- Whether files hold the given tables. -/
def Loads (content : String → FileContent) (files : List String) (tables : List Table) : Prop :=
  List.Forall₂ (fun path table => Table.ofFile (content path) = .ok table) files tables

def failureOf (errors : Nat) : Option String :=
  if errors = 0 then none else some (toString errors ++ " error(s) found")

section Tables

variable {content : String → FileContent} {validators : List Validator} {lookup : EnumLookup}

theorem checkTables_of_loads {files : List String} {tables : List Table}
    (loads : Loads content files tables) (errors : Nat) :
    checkTables content validators lookup errors files =
      ⟨"", (files.zip tables).flatMap fun (path, table) => tableLog path table validators lookup,
        failureOf (errors +
          (tables.map fun table => countErrors (table.findings lookup validators)).sum)⟩ := by
  -- The errors in earlier tables are carried along, so the statement is for any number of them.
  induction loads generalizing errors with
  | nil => rfl
  | cons loaded _ ih =>
    rw [checkTables, loaded]
    simp only [ih, List.map_cons, List.sum_cons, ← Nat.add_assoc]
    rfl

/-- A file that holds no table makes the check fail, wherever it stands. -/
theorem failure_checkTables_of_unloaded {files : List String} {path : String}
    {problem : FileProblem} (member : path ∈ files)
    (unloaded : Table.ofFile (content path) = .error problem) (errors : Nat) :
    (checkTables content validators lookup errors files).failure.isSome = true := by
  induction files generalizing errors with
  | nil => cases member
  | cons first rest ih =>
    rw [checkTables]
    cases loaded : Table.ofFile (content first) with
    | error => rfl
    | ok table =>
      rcases List.mem_cons.mp member with rfl | member
      · rw [unloaded] at loaded
        cases loaded
      · exact ih member _

/-- Validators that count the same errors in every table give the same failure. -/
theorem failure_checkTables_congr {validators' : List Validator}
    (same : ∀ table : Table, countErrors (table.findings lookup validators') =
      countErrors (table.findings lookup validators)) (errors : Nat) (files : List String) :
    (checkTables content validators' lookup errors files).failure =
      (checkTables content validators lookup errors files).failure := by
  induction files generalizing errors with
  | nil => rfl
  | cons path rest ih =>
    rw [checkTables, checkTables]
    cases Table.ofFile (content path) with
    | error => rfl
    | ok table =>
      have counted : errorCount table validators' lookup = errorCount table validators lookup :=
        same table
      simp only [counted]
      exact ih _

end Tables

/-! ## The command -/

/-- The enumerations that a check uses: those in its file, or none without a file. -/
inductive UsesLookup (content : String → FileContent) : Option String → EnumLookup → Prop
  | absent : UsesLookup content none .unknown
  | stored {path : String} {enumerations : Enumerations}
      (loaded : Enumerations.ofFile (content path) = .ok enumerations) :
      UsesLookup content (some path) enumerations.members?

/-- What the outcome of a check is for each configuration. -/
structure CheckSpec (content : String → FileContent) (files : List String) (lookup : EnumLookup)
    (outcome : Config → Outcome) : Prop where
  /-- The first unknown name is reported, and nothing is checked. -/
  unknown : ∀ config before name after, config.selected = before ++ name :: after →
    (∀ earlier ∈ before, earlier ∈ Config.registeredNames) → name ∉ Config.registeredNames →
      outcome config = .failed (UnknownValidator.message ⟨name⟩)
  /-- Otherwise each table is given to the selected validators. -/
  selected : ∀ config : Config, config.Known → ∃ validators, config.Selects validators ∧
    outcome config = checkTables content validators lookup 0 files ∧
    ∀ tables, Loads content files tables →
      (outcome config).logs = (files.zip tables).flatMap fun (path, table) =>
        tableLog path table validators lookup
  /-- The check succeeds if no cell is rejected. -/
  succeeds_iff : ∀ config : Config, config.Known → ∀ tables, Loads content files tables →
    ((outcome config).exitCode = 0 ↔
      ∀ table ∈ tables, ∀ place, place ∉ config.rejected lookup table)
  /-- The failure of a check names the number of cells that are rejected. -/
  counts : ∀ config : Config, config.Known → ∀ tables, Loads content files tables →
    (outcome config).exitCode ≠ 0 → (config.rejectedIn lookup tables).Finite ∧
      (outcome config).failure =
        some (toString (config.rejectedIn lookup tables).ncard ++ " error(s) found")
  /-- A file without a table makes the check fail. -/
  unloaded : ∀ config : Config, config.Known → ∀ path ∈ files, ∀ problem,
    Table.ofFile (content path) = .error problem → (outcome config).exitCode ≠ 0
  /-- The order of the names and their repetitions do not matter. -/
  sameNames : ∀ config config' : Config, config.Known →
    config'.allowEmptyOutputs = config.allowEmptyOutputs →
    (∀ name, name ∈ config'.selected ↔ name ∈ config.selected) → outcome config' = outcome config
  /-- Whether shadowed rules are looked for does not matter for the failure. -/
  sameCells : ∀ config config' : Config, config.Known → config'.Known →
    config'.allowEmptyOutputs = config.allowEmptyOutputs →
    (∀ side, config'.Checks side ↔ config.Checks side) →
      (outcome config').failure = (outcome config).failure

variable {content : String → FileContent} {enumerations : Option String} {lookup : EnumLookup}

/-- Once the enumerations are loaded, only the names of the validators can be wrong. -/
theorem run_check_eq (uses : UsesLookup content enumerations lookup) (files : List String)
    (config : Config) :
    run content (.check files config enumerations) =
      match config.validators with
      | .error unknown => .failed unknown.message
      | .ok validators => checkTables content validators lookup 0 files := by
  cases uses with
  | absent => rfl
  | @stored path stored loaded =>
    have read : ((some path).mapM fun path => Enumerations.ofFile (content path)) =
        Except.ok (some stored) := by
      rw [Option.mapM_some, loaded]
      rfl
    rw [run, runCheck, read]
    rfl

/-- Selected validators are given all tables. -/
theorem run_check_of_validators (uses : UsesLookup content enumerations lookup)
    {config : Config} {validators : List Validator} (chosen : config.validators = .ok validators)
    (files : List String) :
    run content (.check files config enumerations) =
      checkTables content validators lookup 0 files := by
  rw [run_check_eq uses, chosen]

/-- A check of files that all hold tables fails as the number of rejected cells says. -/
theorem failure_run_check (uses : UsesLookup content enumerations lookup) {config : Config}
    (known : config.Known) {files : List String} {tables : List Table}
    (loads : Loads content files tables) : ∃ errors : Nat,
      (config.rejectedIn lookup tables).encard = errors ∧
      (run content (.check files config enumerations)).failure = failureOf errors := by
  rcases known.selects with ⟨validators, chosen, _⟩
  refine ⟨_, known.encard_rejectedIn chosen lookup tables, ?_⟩
  rw [run_check_of_validators uses chosen, checkTables_of_loads loads, Nat.zero_add]

theorem exitCode_eq_zero_iff {outcome : Outcome} :
    outcome.exitCode = 0 ↔ outcome.failure = none := by
  unfold Outcome.exitCode
  cases outcome.failure <;> simp

theorem failureOf_eq_none_iff {errors : Nat} : failureOf errors = none ↔ errors = 0 := by
  simp [failureOf]

/-- **A check fails exactly if some cell is rejected, and counts the rejected cells.**  Every
configuration, and every list of files with names, can be given by arguments. -/
theorem run_check_spec (uses : UsesLookup content enumerations lookup) (files : List String) :
    (files ≠ [] → "" ∉ files → enumerations ≠ some "" → ∀ config,
        ofArguments? (checkArguments files config enumerations) =
          some (.check files config enumerations)) ∧
      CheckSpec content files lookup fun config =>
        run content (.check files config enumerations) := by
  refine ⟨ofArguments?_checkArguments, ?_⟩
  constructor
  case unknown =>
    intro config before name after split known unknown
    rw [run_check_eq uses, Config.validators_of_unknown split known unknown]
  case selected =>
    intro config known
    rcases known.selects with ⟨validators, chosen, selects⟩
    refine ⟨validators, selects, run_check_of_validators uses chosen files, ?_⟩
    intro tables loads
    rw [run_check_of_validators uses chosen, checkTables_of_loads loads]
  case succeeds_iff =>
    intro config known tables loads
    rcases failure_run_check uses known loads with ⟨errors, count, failure⟩
    rw [exitCode_eq_zero_iff, failure, failureOf_eq_none_iff, ← Nat.cast_eq_zero (R := ℕ∞), ← count,
      Set.encard_eq_zero, Config.rejectedIn_eq_empty_iff]
  case counts =>
    intro config known tables loads fails
    rcases failure_run_check uses known loads with ⟨errors, count, failure⟩
    rw [ne_eq, exitCode_eq_zero_iff, failure, failureOf_eq_none_iff] at fails
    refine ⟨Set.finite_of_encard_eq_coe count, ?_⟩
    rw [failure, failureOf, if_neg fails, Set.ncard, count, ENat.toNat_natCast]
  case unloaded =>
    intro config known path member problem unloaded
    rcases known.selects with ⟨validators, chosen, _⟩
    rw [ne_eq, exitCode_eq_zero_iff, run_check_of_validators uses chosen, ← ne_eq,
      ← Option.isSome_iff_ne_none]
    exact failure_checkTables_of_unloaded member unloaded 0
  case sameNames =>
    intro config config' known sameEmpty sameNames
    rw [run_check_eq uses, run_check_eq uses, known.validators_congr sameEmpty sameNames]
  case sameCells =>
    intro config config' known known' sameEmpty sameCells
    rcases known.selects with ⟨validators, chosen, _⟩
    rcases known'.selects with ⟨validators', chosen', _⟩
    rw [run_check_of_validators uses chosen, run_check_of_validators uses chosen']
    refine failure_checkTables_congr (fun table => ?_) 0 files
    -- The findings may differ, but errors are counted by the cells that are rejected.
    have sameRejected : config'.rejected lookup table = config.rejected lookup table := by
      simp only [Config.rejected, sameEmpty, sameCells]
    rw [← Nat.cast_inj (R := ℕ∞), known'.countErrors_findings chosen',
      known.countErrors_findings chosen, sameRejected]

/-- A table of two rules, stored as an array of its fields.  The first rule has a cell without a
column, the second a dish that is not known, and the second is shadowed by the first.  This makes
one error. -/
theorem run_check_spec_menu :
    let dishes : Enumerations := ⟨[("Dish", ["Stew"])]⟩
    let menu : Table := ⟨none, [], [⟨none, some "Dish"⟩],
      [⟨"a", [""], ["\"Stew\"", "7"]⟩, ⟨"b", [""], ["\"Pie\""]⟩]⟩
    let content : String → FileContent := fun path =>
      if path = "dishes.json" then some "\x7b\"Dish\": [\"Stew\"]\x7d".toUTF8
      else if path = "menu.json" then
        some ("[null, [], [[null, \"Dish\"]], [[\"a\", [\"\"], [\"\\\"Stew\\\"\", \"7\"]], " ++
          "[\"b\", [\"\"], [\"\\\"Pie\\\"\"]]]]").toUTF8
      else none
    let config : Config := ⟨["shadowed-rule", "output-entry-type", "shadowed-rule"], true⟩
    let arguments := ["check", "--validator=shadowed-rule", "--validator=output-entry-type",
      "--validator=shadowed-rule", "--enums=dishes.json", "--allow-empty-outputs", "--",
      "menu.json"]
    let outcome := run content (.check ["menu.json"] config (some "dishes.json"))
    ofArguments? arguments = some (.check ["menu.json"] config (some "dishes.json")) ∧
      UsesLookup content (some "dishes.json") dishes.members? ∧ config.Known ∧
      Loads content ["menu.json"] [menu] ∧ outcome.exitCode ≠ 0 ∧
      (config.rejectedIn dishes.members? [menu]).ncard = 1 ∧
      outcome.failure = some "1 error(s) found" := by
  intro dishes menu content config arguments outcome
  have uses : UsesLookup content (some "dishes.json") dishes.members? :=
    .stored (Enumerations.ofFile_toUTF8 (by cbv))
  have loads : Loads content ["menu.json"] [menu] :=
    .cons (Table.ofFile_toUTF8 (by cbv)) .nil
  have known : config.Known := by
    intro name member
    revert name
    decide
  have chosen : config.validators = .ok [.outputEntryType true, .shadowedRule] := rfl
  have stewReads : Cell.parse "\"Stew\"" = .ok (.atom (.string "Stew")) :=
    Grammar.parse_string (by decide) (by decide +kernel)
  have pieReads : Cell.parse "\"Pie\"" = .ok (.atom (.string "Pie")) :=
    Grammar.parse_string (by decide) (by decide +kernel)
  have stew : (EntryPolicy.output true).problem? dishes.members? .empty
      (OutputColumn.declaredType ⟨none, some "Dish"⟩) "\"Stew\"" = none :=
    (EntryPolicy.problem?_string stewReads rfl rfl _).trans (if_pos List.mem_cons_self)
  have pie : (EntryPolicy.output true).problem? dishes.members? .empty
      (OutputColumn.declaredType ⟨none, some "Dish"⟩) "\"Pie\"" =
        some (.notMember "Pie" "Dish") :=
    (EntryPolicy.problem?_string pieReads rfl rfl _).trans (if_neg (by decide))
  have found : Validator.findings dishes.members? menu (.outputEntryType true) =
      [⟨.entry (.notMember "Pie" "Dish"), ⟨1, ⟨"b", [""], ["\"Pie\""]⟩⟩⟩] := by
    simp [Validator.findings, Table.numberedRules, menu, Validator.outputFindings, stew, pie]
  have errors : countErrors (menu.findings dishes.members? [.outputEntryType true, .shadowedRule]) =
      1 := by
    rw [Table.findings, List.flatMap_cons, List.flatMap_singleton, countErrors_append, found,
      countErrors_shadowedRule]
    rfl
  have count := known.encard_rejectedIn chosen dishes.members? [menu]
  rw [List.map_singleton, errors, List.sum_singleton] at count
  have one : (config.rejectedIn dishes.members? [menu]).ncard = 1 := by
    rw [Set.ncard, count, ENat.toNat_natCast]
  rcases run_check_spec uses ["menu.json"] with ⟨asked, spec⟩
  have fails : outcome.exitCode ≠ 0 := by
    intro succeeds
    have noCell := (spec.succeeds_iff config known [menu] loads).mp succeeds
    rw [← Config.rejectedIn_eq_empty_iff] at noCell
    rw [noCell, Set.ncard_empty] at one
    cases one
  have failure := (spec.counts config known [menu] loads fails).2
  rw [one] at failure
  have written : checkArguments ["menu.json"] config (some "dishes.json") = arguments := by
    decide +kernel
  have formed := asked (by decide) (by decide) (by decide) config
  rw [written] at formed
  exact ⟨formed, uses, known, loads, fails, one, failure⟩

end Command
end CellCheck
