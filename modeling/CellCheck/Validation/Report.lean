import CellCheck.Json.Value

/-!
# Reports

What is shown of a finding: how severe it is and a message.
-/

namespace CellCheck

inductive Severity where
  | info | warning | error
deriving DecidableEq, Repr

namespace Severity

def print : Severity → String
  | info => "INFO"
  | warning => "WARNING"
  | error => "ERROR"

/-- A number that orders severities from the mildest to the worst. -/
def rank : Severity → Nat
  | info => 0
  | warning => 1
  | error => 2

def sort (severities : List Severity) : List Severity :=
  severities.mergeSort fun x y => x.rank ≤ y.rank

def ofName? (name : String) : Option Severity :=
  [info, warning, error].find? fun severity => severity.print = name

/-- A severity is stored as its name, or as an object with its name as the only key and null as
the value. -/
def ofJson? : Json → Option Severity
  | .string (some name) => ofName? name
  | .object [(some name, .null)] => ofName? name
  | _ => none

end Severity

structure Report where
  severity : Severity
  message : String
deriving DecidableEq, Repr

namespace Report

def isError (report : Report) : Bool := report.severity = .error

def print (report : Report) : String := "[" ++ report.severity.print ++ "] " ++ report.message

end Report
end CellCheck
