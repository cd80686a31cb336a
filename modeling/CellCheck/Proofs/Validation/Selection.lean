import CellCheck.Validation.Config

/-!
# Selected validators

A configuration names validators in any order and as often as it likes.  Only the set of the names
counts: the validators that run are the registered ones with these names, in the order in which they
are registered, and all of them if there are no names.  A name that no validator has is refused, and
of several such names the first one is reported.
-/

namespace CellCheck
namespace Config

/-- Whether every name is the name of a validator. -/
def Known (config : Config) : Prop :=
  ∀ name ∈ config.selected, name ∈ registeredNames

/-- The registered validators that a configuration selects.  Since no validator is registered twice,
none occurs twice among them. -/
structure Selects (config : Config) (validators : List Validator) : Prop where
  inOrder : validators.Sublist (registered config.allowEmptyOutputs)
  mem_iff : ∀ v ∈ registered config.allowEmptyOutputs,
    v ∈ validators ↔ config.selected = [] ∨ v.name ∈ config.selected

variable {config : Config}

/-- The first name that is unknown is reported. -/
theorem validators_of_unknown {before after : List String} {name : String}
    (split : config.selected = before ++ name :: after)
    (known : ∀ earlier ∈ before, earlier ∈ registeredNames) (unknown : name ∉ registeredNames) :
    config.validators = .error ⟨name⟩ := by
  have first : (config.selected.find? fun name => !registeredNames.contains name) = some name := by
    rw [List.find?_eq_some_iff_append]
    refine ⟨by simpa using unknown, before, after, split, ?_⟩
    intro earlier member
    simpa using known earlier member
  rw [validators, first]

theorem Known.validators_eq (known : config.Known) :
    config.validators = .ok ((registered config.allowEmptyOutputs).filter fun validator =>
      config.selected.isEmpty || config.selected.contains validator.name) := by
  have noUnknown : (config.selected.find? fun name => !registeredNames.contains name) = none := by
    rw [List.find?_eq_none]
    intro name member
    simpa using known name member
  rw [validators, noUnknown]

theorem Known.selects (known : config.Known) :
    ∃ validators, config.validators = .ok validators ∧ config.Selects validators := by
  refine ⟨_, known.validators_eq, List.filter_sublist, ?_⟩
  intro v registered
  simp [registered]

/-- The selection does not depend on the order of the names or on how often they occur. -/
theorem Known.validators_congr (known : config.Known) {config' : Config}
    (sameEmpty : config'.allowEmptyOutputs = config.allowEmptyOutputs)
    (sameNames : ∀ name, name ∈ config'.selected ↔ name ∈ config.selected) :
    config'.validators = config.validators := by
  have known' : config'.Known := fun name member => known name ((sameNames name).mp member)
  have noNames : config'.selected = [] ↔ config.selected = [] := by
    simp only [List.eq_nil_iff_forall_not_mem, sameNames]
  rw [known.validators_eq, known'.validators_eq, sameEmpty]
  congr 2
  funext v
  rw [Bool.eq_iff_iff]
  simp [noNames, sameNames]

end Config
end CellCheck
