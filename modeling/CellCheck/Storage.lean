import CellCheck.Json.Value
import CellCheck.Table.Basic
import CellCheck.Validation.Config

/-!
# Stored forms

Tables, enumerations and configurations are stored as JSON texts.  A table and a configuration are
records, whose fields have defaults, except for the identifier of a rule.  Enumerations are an
object from names to lists of members, in which a later entry replaces an earlier one of the same
name.

A file is given by its content, or as missing.  A file that is missing or is not text cannot be
read; one that can be read may still hold no table or no enumerations.
-/

namespace CellCheck

def InputColumn.ofJson? (json : Json) : Option InputColumn :=
  match json.record? ["label", "variable", "type_ref"] with
  | some [label, variableName, typeReference] => do
    let label ← Json.orDefault none (Json.nullable? Json.string?) label
    let variableName ← Json.orDefault InputColumn.defaultVariable Json.string? variableName
    let typeReference ← Json.orDefault none (Json.nullable? Json.string?) typeReference
    return { label, variableName, typeReference }
  | _ => none

def OutputColumn.ofJson? (json : Json) : Option OutputColumn :=
  match json.record? ["name", "type_ref"] with
  | some [name, typeReference] => do
    let name ← Json.orDefault none (Json.nullable? Json.string?) name
    let typeReference ← Json.orDefault none (Json.nullable? Json.string?) typeReference
    return { name, typeReference }
  | _ => none

def Rule.ofJson? (json : Json) : Option Rule :=
  match json.record? ["id", "input_entries", "output_entries"] with
  | some [some id, inputEntries, outputEntries] => do
    let id ← id.string?
    let inputEntries ← Json.orDefault [] (Json.list? Json.string?) inputEntries
    let outputEntries ← Json.orDefault [] (Json.list? Json.string?) outputEntries
    return { id, inputEntries, outputEntries }
  | _ => none

namespace Table

def ofJson? (json : Json) : Option Table :=
  match json.record? ["name", "inputs", "outputs", "rules"] with
  | some [name, inputs, outputs, rules] => do
    let name ← Json.orDefault none (Json.nullable? Json.string?) name
    let inputs ← Json.orDefault [] (Json.list? InputColumn.ofJson?) inputs
    let outputs ← Json.orDefault [] (Json.list? OutputColumn.ofJson?) outputs
    let rules ← Json.orDefault [] (Json.list? Rule.ofJson?) rules
    return { name, inputs, outputs, rules }
  | _ => none

/-- The table that a text holds. -/
def ofText? (text : String) : Option Table := Json.ofText? text >>= ofJson?

end Table

def Config.ofJson? (json : Json) : Option Config :=
  match json.record? ["validators", "allow_empty_outputs"] with
  | some [selected, allowEmptyOutputs] => do
    let selected ← Json.orDefault [] (Json.list? Json.string?) selected
    let allowEmptyOutputs ← Json.orDefault true Json.boolean? allowEmptyOutputs
    return { selected, allowEmptyOutputs }
  | _ => none

def Config.ofText? (text : String) : Option Config := Json.ofText? text >>= Config.ofJson?

def Enumerations.ofJson? : Json → Option Enumerations
  | .object keyed => do
    let entries ← (← Json.withTexts? keyed).mapM fun (name, members) => do
      return (name, Enumerations.distinct (← members.list? Json.string?))
    return { entries }
  | _ => none

def Enumerations.ofText? (text : String) : Option Enumerations :=
  Json.ofText? text >>= Enumerations.ofJson?

/-! ## Files -/

/-- What is wrong with a file. -/
inductive FileProblem where
  | unreadable
  | invalidTable
  | invalidEnumerations
deriving DecidableEq, Repr

def FileProblem.message (path : String) : FileProblem → String
  | unreadable => "Failed to read " ++ path
  | invalidTable => "Invalid decision table " ++ path
  | invalidEnumerations => "Invalid enumeration file " ++ path

/-- The content of a file, or nothing if there is no such file. -/
abbrev FileContent : Type := Option ByteArray

def FileContent.text (content : FileContent) : Except FileProblem String :=
  match content.bind String.fromUTF8? with
  | some text => .ok text
  | none => .error .unreadable

def Table.ofFile (content : FileContent) : Except FileProblem Table := do
  match Table.ofText? (← content.text) with
  | some table => return table
  | none => throw .invalidTable

def Enumerations.ofFile (content : FileContent) : Except FileProblem Enumerations := do
  match Enumerations.ofText? (← content.text) with
  | some enumerations => return enumerations
  | none => throw .invalidEnumerations

end CellCheck
