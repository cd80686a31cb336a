import CellCheck.Typing.Ty

/-!
# Decision tables

A decision table has input columns, output columns and rules.  A rule has a cell for each column;
its cells are texts, and there may be more or fewer of them than columns.  Everything that checks
a table refers to a rule by its place in the table, because identifiers need not be unique.

A column may name an enumeration, which is a set of strings.  The checks of a table only ever ask for
the members of an enumeration by its name, so they take any function that can answer; `Enumerations`
are such answers stored as a list.
-/

namespace CellCheck

/-! ## Enumerations -/

/-- The members of the enumeration with a name, if it is known. -/
abbrev EnumLookup : Type := String → Option (List String)

/-- The lookup that knows no enumeration. -/
def EnumLookup.unknown : EnumLookup := fun _ => none

structure Enumerations where
  entries : List (String × List String)
deriving DecidableEq, Repr

namespace Enumerations

/-- The members of an enumeration.  Of several entries with one name the last one counts. -/
def members? (enumerations : Enumerations) : EnumLookup := fun name =>
  (enumerations.entries.reverse.find? fun entry => entry.1 = name).map Prod.snd

/-- The names that occur, each once. -/
def names (enumerations : Enumerations) : List String :=
  (enumerations.entries.map Prod.fst).eraseDups

/-- Some strings, each once, in the order of their characters. -/
def distinct (members : List String) : List String :=
  members.eraseDups.mergeSort fun x y => !(y < x)

end Enumerations

/-! ## Tables -/

structure InputColumn where
  label : Option String
  /-- The variable by which a cell can refer to the value of its column. -/
  variableName : String
  typeReference : Option String
deriving DecidableEq, Repr

structure OutputColumn where
  name : Option String
  typeReference : Option String
deriving DecidableEq, Repr

structure Rule where
  id : String
  inputEntries : List String
  outputEntries : List String
deriving DecidableEq, Repr

structure Table where
  name : Option String
  inputs : List InputColumn
  outputs : List OutputColumn
  rules : List Rule
deriving DecidableEq, Repr

/-- The variable of an input column that does not name one. -/
def InputColumn.defaultVariable : String := "cellInput"

def InputColumn.declaredType (column : InputColumn) : DeclaredType :=
  .ofReference column.typeReference

def OutputColumn.declaredType (column : OutputColumn) : DeclaredType :=
  .ofReference column.typeReference

/-- A rule with its place in the table, counted from zero. -/
structure NumberedRule where
  index : Nat
  rule : Rule
deriving DecidableEq, Repr

namespace Table

def empty : Table := ⟨none, [], [], []⟩

/-- The name that reports use. -/
def displayName (table : Table) : String := table.name.getD "<unnamed>"

/-- The rules with their places. -/
def numberedRules (table : Table) : List NumberedRule :=
  table.rules.zipIdx.map fun (rule, index) => ⟨index, rule⟩

end Table
end CellCheck
