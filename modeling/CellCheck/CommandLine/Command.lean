import CellCheck.CommandLine.Arguments
import CellCheck.Number.Notation
import CellCheck.Text.Basic
import CellCheck.Typing.Ty
import CellCheck.Validation.Config

/-!
# Commands

The four commands and the options that each of them knows.  Arguments that form no command are
refused as a whole, without saying what is wrong with them.  The option for more detailed logging
is allowed before and after the name of a command, once in each place; it has no effect on
anything described here.
-/

namespace CellCheck

inductive Command where
  | parse (text : String)
  | typecheck (text : String) (bindings : List (String × Ty)) (expected : Option Ty)
  | subsumes (outer inner : String) (tolerance : Double)
  | check (files : List String) (config : Config) (enumerations : Option String)
deriving DecidableEq

namespace Command

def debugForm : OptionForm := ⟨"debug", some 'd', false⟩

def typecheckForms : List OptionForm :=
  [debugForm, ⟨"var", some 'v', true⟩, ⟨"expect", some 'e', true⟩]

def subsumesForms : List OptionForm := [debugForm, ⟨"epsilon", some 'e', true⟩]

def checkForms : List OptionForm :=
  [ debugForm, ⟨"validator", some 'v', true⟩, ⟨"enums", some 'E', true⟩,
    ⟨"allow-empty-outputs", none, false⟩, ⟨"deny-empty-outputs", none, false⟩ ]

/-- Split the arguments of a command, which may ask for detailed logging once at most. -/
def split? (forms : List OptionForm) (arguments : List String) : Option (List Argument) := do
  let found ← Argument.split? forms arguments
  if Argument.count "debug" found ≤ 1 then return found else none

/-- The type of a variable, given as its name, an equals sign and the name of a type. -/
def binding? (text : String) : Option (String × Ty) :=
  let cs := text.toList
  match cs.dropWhile (· ≠ '=') with
  | [] => none
  | _ :: typeName =>
    let name := Text.trim (String.ofList (cs.takeWhile (· ≠ '=')))
    if name.isEmpty then none
    else (Ty.ofName? (String.ofList typeName)).map fun ty => (name, ty)

/-- The path of a file, which cannot be empty. -/
def path? (text : String) : Option String := if text.isEmpty then none else some text

/-- An option that may be absent, read in its own form otherwise. -/
def absentOr {α : Type} (form? : String → Option α) : Option String → Option (Option α)
  | none => some none
  | some text => (form? text).map some

def parse? (arguments : List String) : Option Command := do
  let found ← split? [debugForm] arguments
  match Argument.operands found with
  | [text] => return .parse text
  | _ => none

def typecheck? (arguments : List String) : Option Command := do
  let found ← split? typecheckForms arguments
  let bindings ← (Argument.valuesOf "var" found).mapM binding?
  let expected ← absentOr Ty.ofName? (← Argument.atMostOne? "expect" found)
  match Argument.operands found with
  | [text] => return .typecheck text bindings expected
  | _ => none

def subsumes? (arguments : List String) : Option Command := do
  let found ← split? subsumesForms arguments
  let tolerance ← absentOr Double.ofArgument? (← Argument.atMostOne? "epsilon" found)
  match Argument.operands found with
  | [outer, inner] => return .subsumes outer inner (tolerance.getD Double.zero)
  | _ => none

def check? (arguments : List String) : Option Command := do
  let found ← split? checkForms arguments
  let files ← (Argument.operands found).mapM path?
  let enumerations ← absentOr path? (← Argument.atMostOne? "enums" found)
  let choice ← Argument.lastOf?
    (Argument.flagsAmong ["allow-empty-outputs", "deny-empty-outputs"] found)
  if files.isEmpty then none
  else
    let config : Config :=
      { selected := Argument.valuesOf "validator" found
        allowEmptyOutputs := choice ≠ some "deny-empty-outputs" }
    return .check files config enumerations

/-- The command with a name and the arguments after it. -/
def named? (name : String) (arguments : List String) : Option Command :=
  if name = "parse" then parse? arguments
  else if name = "typecheck" then typecheck? arguments
  else if name = "subsumes" then subsumes? arguments
  else if name = "check" then check? arguments
  else none

/-- The command that some arguments form.  Its name is the first argument that does not look like an
option, and only the option for detailed logging may stand before it. -/
def ofArguments? (arguments : List String) : Option Command := do
  let options := arguments.takeWhile Argument.looksLikeOption
  let _ ← split? [debugForm] options
  match arguments.drop options.length with
  | name :: rest => if options.contains "--" then none else named? name rest
  | [] => none

end Command
end CellCheck
