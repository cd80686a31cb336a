import CellCheck.CommandLine.Command
import CellCheck.Expr.Printer
import CellCheck.Storage

/-!
# Running a command

A run is described by what it leaves: the text on standard output, the lines of the log, and the
message of the failure if there is one.  A failure does not take back what was written before.  The
only thing that a run asks of its surroundings is the content of files.
-/

namespace CellCheck

inductive LogLevel where
  | info | warning | error
deriving DecidableEq, Repr

def LogLevel.print : LogLevel → String
  | info => "INFO"
  | warning => "WARN"
  | error => "ERROR"

/-- A line of the log: its level, the part of the program that wrote it, and the text. -/
structure LogLine where
  level : LogLevel
  source : String
  message : String
deriving DecidableEq, Repr

structure Outcome where
  stdout : String
  logs : List LogLine
  failure : Option String
deriving DecidableEq, Repr

namespace Outcome

def success (line : String) : Outcome := ⟨line ++ "\n", [], none⟩

/-- A run that fails before it has written anything. -/
def failed (message : String) : Outcome := ⟨"", [], some message⟩

def exitCode (outcome : Outcome) : Nat := if outcome.failure.isSome then 1 else 0

end Outcome

namespace Command

/-- The part of the program that reports findings. -/
def mainSource : String := "dmncheck"

/-- The part of the program that warns about rules with the wrong number of input cells. -/
def countSource : String := "dmncheck::validation::input_entry"

def runParse (text : String) : Outcome :=
  match Cell.parse text with
  | .ok e => .success e.print
  | .error error => .failed error.message

def runTypecheck (text : String) (bindings : List (String × Ty)) (expected : Option Ty) : Outcome :=
  match Cell.parse text with
  | .error error => .failed error.message
  | .ok e =>
    match e.infer ⟨bindings⟩ with
    | .error error => .failed error.message
    | .ok ty =>
      let wrong := expected.filter fun expected => !ty.isSubtype expected
      { Outcome.success ty.print with
        failure := wrong.map fun expected =>
          "Type " ++ ty.print ++ " is not a subtype of " ++ expected.print }

def runSubsumes (outer inner : String) (tolerance : Double) : Outcome :=
  match Cell.parse outer, Cell.parse inner with
  | .error error, _ => .failed error.message
  | .ok _, .error error => .failed error.message
  | .ok outer, .ok inner =>
    match Expr.subsumesBy (Expr.within tolerance) outer inner with
    | some true => .success "true"
    | some false => .success "false"
    | none => .success "incomparable"

/-! ## Checking tables -/

/-- The level at which findings of a severity are logged. -/
def levelOf : Severity → LogLevel
  | .info => .info
  | .warning => .warning
  | .error => .error

/-- The log of one table. -/
def tableLog (path : String) (table : Table) (validators : List Validator) (lookup : EnumLookup) :
    List LogLine :=
  let findings := table.findings lookup validators
  let warnings := (table.warnings validators).map fun warning =>
    LogLine.mk .warning countSource warning.message
  let summary := LogLine.mk .info mainSource
    (path ++ ": " ++ toString findings.length ++ " findings in " ++ table.displayName)
  let reported := findings.map fun finding =>
    LogLine.mk (levelOf finding.report.severity) mainSource
      (path ++ " rule " ++ finding.about.rule.id ++ ": " ++ finding.report.message)
  warnings ++ summary :: reported

/-- How many findings about a table are errors. -/
def errorCount (table : Table) (validators : List Validator) (lookup : EnumLookup) : Nat :=
  (table.findings lookup validators).countP fun finding => finding.report.isError

/-- Check tables one after the other.  The first file that holds no table ends the run; otherwise
the run fails if there have been errors, which are counted over all tables. -/
def checkTables (content : String → FileContent) (validators : List Validator)
    (lookup : EnumLookup) (errors : Nat) : List String → Outcome
  | [] =>
    ⟨"", [], if errors = 0 then none else some (toString errors ++ " error(s) found")⟩
  | path :: paths =>
    match Table.ofFile (content path) with
    | .error problem => .failed (problem.message path)
    | .ok table =>
      let later := checkTables content validators lookup
        (errors + errorCount table validators lookup) paths
      { later with logs := tableLog path table validators lookup ++ later.logs }

/-- Check tables with a configuration.  Enumerations are read before the names of the validators are
looked at, and those before any table is read. -/
def runCheck (content : String → FileContent) (files : List String) (config : Config)
    (enumerations : Option String) : Outcome :=
  match enumerations.mapM fun path => Enumerations.ofFile (content path) with
  | .error _ => .failed "Failed to load enumerations"
  | .ok loaded =>
    match config.validators with
    | .error unknown => .failed unknown.message
    | .ok validators =>
      let lookup := (loaded.map Enumerations.members?).getD EnumLookup.unknown
      checkTables content validators lookup 0 files

/-- Run a command, given the content of files. -/
def run (content : String → FileContent) : Command → Outcome
  | .parse text => runParse text
  | .typecheck text bindings expected => runTypecheck text bindings expected
  | .subsumes outer inner tolerance => runSubsumes outer inner tolerance
  | .check files config enumerations => runCheck content files config enumerations

def files : Command → List String
  | .check files _ enumerations => enumerations.toList ++ files
  | _ => []

end Command
end CellCheck
