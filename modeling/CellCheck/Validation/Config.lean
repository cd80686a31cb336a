import CellCheck.Validation.Validator

/-!
# Configurations

A configuration selects validators by name and says whether output cells may be empty.  The
validators run in one fixed order, each at most once, whatever the order and number of their names
is.
-/

namespace CellCheck

structure Config where
  /-- The names of the selected validators.  No name selects all of them. -/
  selected : List String
  allowEmptyOutputs : Bool
deriving DecidableEq, Repr

/-- A name that no validator has. -/
structure UnknownValidator where
  name : String
deriving DecidableEq, Repr

namespace Config

/-- All validators, with empty output cells allowed. -/
def default : Config := ⟨[], true⟩

/-- The validators that there are, in the order in which they run. -/
def registered (allowEmptyOutputs : Bool) : List Validator :=
  [.inputEntryType, .outputEntryType allowEmptyOutputs, .shadowedRule]

def registeredNames : List String := (registered true).map Validator.name

/-- The selected validators, or the first selected name that is unknown. -/
def validators (config : Config) : Except UnknownValidator (List Validator) :=
  match config.selected.find? fun name => !registeredNames.contains name with
  | some name => .error ⟨name⟩
  | none =>
    .ok ((registered config.allowEmptyOutputs).filter fun validator =>
      config.selected.isEmpty || config.selected.contains validator.name)

end Config

def UnknownValidator.message (unknown : UnknownValidator) : String :=
  "Unknown validator '" ++ unknown.name ++ "', expected one of: " ++
    ", ".intercalate Config.registeredNames

end CellCheck
