import CellCheck.Table.Basic

/-!
# Editing a table

The steps in which a table is built and changed.  A step that names a rule or a column that does not
exist leaves the table as it is.
-/

namespace CellCheck

inductive TableEdit where
  | rename (name : Option String)
  | addInput (column : InputColumn)
  | addOutput (column : OutputColumn)
  | addRule (rule : Rule)
  | dropRule (index : Nat)
  | swapRules (index other : Nat)
  /-- Replace the input cells of a rule. -/
  | setInputs (index : Nat) (entries : List String)
  /-- Replace the type reference of an input column. -/
  | retypeInput (index : Nat) (typeReference : Option String)
deriving DecidableEq, Repr

namespace Table

def setRule (table : Table) (index : Nat) (rule : Rule) : Table :=
  { table with rules := table.rules.set index rule }

def swapRules (table : Table) (index other : Nat) : Table :=
  match table.rules[index]?, table.rules[other]? with
  | some rule, some otherRule => (table.setRule index otherRule).setRule other rule
  | _, _ => table

def edit (table : Table) : TableEdit → Table
  | .rename name => { table with name }
  | .addInput column => { table with inputs := table.inputs ++ [column] }
  | .addOutput column => { table with outputs := table.outputs ++ [column] }
  | .addRule rule => { table with rules := table.rules ++ [rule] }
  | .dropRule index => { table with rules := table.rules.eraseIdx index }
  | .swapRules index other => table.swapRules index other
  | .setInputs index entries =>
    { table with
      rules := table.rules.modify index fun rule => { rule with inputEntries := entries } }
  | .retypeInput index typeReference =>
    { table with
      inputs := table.inputs.modify index fun column => { column with typeReference } }

end Table
end CellCheck
