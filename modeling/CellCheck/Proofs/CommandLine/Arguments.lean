import CellCheck.CommandLine.Command
import Mathlib.Data.List.Basic

/-!
# Arguments written in full

An option can be written in full: with its long name, and with its value after an equals sign if it
takes one.  The arguments of a command that are written so, with all operands after the mark that
ends the options, are split into what they have been written from, whatever the values and the
operands are.  Hence every check of named files can be asked for.
-/

namespace CellCheck
namespace Argument

/-- What stands in an argument written in full after the two minus signs of an option. -/
def body : Argument → List Char
  | flag name => name.toList
  | option name value => name.toList ++ '=' :: value.toList
  | operand text => text.toList

def writtenOption (argument : Argument) : String :=
  String.ofList ('-' :: '-' :: argument.body)

/-- Whether an argument is one of some options, with a value exactly if the option takes one. -/
inductive Allowed (forms : List OptionForm) : Argument → Prop
  | flag {form : OptionForm} (known : forms.find? (fun other => other.long = form.long) = some form)
      (named : form.long ≠ "") (noEquals : '=' ∉ form.long.toList)
      (alone : form.takesValue = false) : Allowed forms (.flag form.long)
  | option {form : OptionForm} {value : String}
      (known : forms.find? (fun other => other.long = form.long) = some form)
      (noEquals : '=' ∉ form.long.toList) (valued : form.takesValue = true) :
      Allowed forms (.option form.long value)

variable {forms : List OptionForm} {argument : Argument}

theorem takeWhile_ne_equals {name : List Char} (noEquals : '=' ∉ name) (rest : List Char) :
    (name ++ rest).takeWhile (· ≠ '=') = name ++ rest.takeWhile (· ≠ '=') ∧
      (name ++ rest).dropWhile (· ≠ '=') = rest.dropWhile (· ≠ '=') := by
  have isName : ∀ c ∈ name, decide (c ≠ '=') = true := by
    intro c member
    refine decide_eq_true ?_
    rintro rfl
    exact noEquals member
  exact ⟨List.takeWhile_append_of_pos isName, List.dropWhile_append_of_pos isName⟩

theorem Allowed.ofLong?_body (allowed : argument.Allowed forms) :
    ofLong? forms argument.body = some ([argument], .complete) := by
  cases allowed with
  | @flag form known _ noEquals alone =>
    have ends := takeWhile_ne_equals noEquals []
    simp only [List.append_nil, List.takeWhile_nil, List.dropWhile_nil] at ends
    simp only [ofLong?, body, ends, String.ofList_toList, known, Option.bind_eq_bind,
      Option.bind_some, alone]
    rfl
  | @option form value known noEquals valued =>
    have ends := takeWhile_ne_equals noEquals ('=' :: value.toList)
    have stops : ('=' :: value.toList).takeWhile (· ≠ '=') = [] ∧
        ('=' :: value.toList).dropWhile (· ≠ '=') = '=' :: value.toList := ⟨rfl, rfl⟩
    simp only [stops, List.append_nil] at ends
    simp only [ofLong?, body, ends, String.ofList_toList, known, Option.bind_eq_bind,
      Option.bind_some, valued]
    rfl

theorem Allowed.ofOption?_writtenOption (allowed : argument.Allowed forms) :
    ofOption? forms argument.writtenOption = some ([argument], .complete) := by
  rw [writtenOption, ofOption?, String.toList_ofList]
  exact allowed.ofLong?_body

theorem Allowed.body_ne_nil (allowed : argument.Allowed forms) : argument.body ≠ [] := by
  cases allowed with
  | flag _ named => exact fun none => named (String.toList_eq_nil_iff.mp none)
  | option => simp [body]

theorem looksLikeOption_writtenOption (argument : Argument) :
    looksLikeOption argument.writtenOption = true := by
  have long : argument.writtenOption.length ≠ 1 := by
    rw [← String.length_toList, writtenOption, String.toList_ofList, List.length_cons,
      List.length_cons]
    omega
  rw [looksLikeOption, decide_eq_true long, writtenOption, String.toList_ofList]
  rfl

theorem Allowed.writtenOption_ne_mark (allowed : argument.Allowed forms) :
    argument.writtenOption ≠ "--" := by
  intro isMark
  have chars : '-' :: '-' :: argument.body = ['-', '-'] := by
    rw [← String.toList_ofList (l := _ :: _), ← writtenOption, isMark]
    rfl
  exact allowed.body_ne_nil (List.cons.inj (List.cons.inj chars).2).2

theorem Allowed.split?_cons (allowed : argument.Allowed forms) (rest : List String) :
    split? forms (argument.writtenOption :: rest) = (split? forms rest).map (argument :: ·) := by
  -- The reader looks at the next argument as well, for options that wait for their value.
  cases rest <;>
    simp only [split?, if_neg allowed.writtenOption_ne_mark,
      if_pos (looksLikeOption_writtenOption argument), allowed.ofOption?_writtenOption] <;>
    rfl

theorem split?_writtenOptions {options : List Argument}
    (allowed : ∀ option ∈ options, option.Allowed forms) (operands : List String) :
    split? forms (options.map writtenOption ++ "--" :: operands) =
      some (options ++ operands.map .operand) := by
  induction options with
  | nil => cases operands <;> rfl
  | cons option options ih =>
    rw [List.forall_mem_cons] at allowed
    rw [List.map_cons, List.cons_append, allowed.1.split?_cons, ih allowed.2]
    rfl

end Argument

namespace Command

/-- The options of a check, each written once for each of its values. -/
def checkOptions (config : Config) (enumerations : Option String) : List Argument :=
  config.selected.map (.option "validator") ++ enumerations.toList.map (.option "enums") ++
    [.flag (if config.allowEmptyOutputs then "allow-empty-outputs" else "deny-empty-outputs")]

/-- The arguments that ask for a check. -/
def checkArguments (files : List String) (config : Config) (enumerations : Option String) :
    List String :=
  "check" :: ((checkOptions config enumerations).map Argument.writtenOption ++ "--" :: files)

theorem checkOptions_allowed (config : Config) (enumerations : Option String) :
    ∀ option ∈ checkOptions config enumerations, option.Allowed checkForms := by
  intro option member
  rcases List.mem_append.mp member with valued | flag
  · rcases List.mem_append.mp valued with validator | enumeration
    · rcases List.mem_map.mp validator with ⟨name, _, rfl⟩
      exact @Argument.Allowed.option checkForms ⟨"validator", some 'v', true⟩ name rfl
        (by decide) rfl
    · rcases List.mem_map.mp enumeration with ⟨path, _, rfl⟩
      exact @Argument.Allowed.option checkForms ⟨"enums", some 'E', true⟩ path rfl
        (by decide) rfl
  · rw [List.mem_singleton] at flag
    rw [flag]
    split
    · exact @Argument.Allowed.flag checkForms ⟨"allow-empty-outputs", none, false⟩ rfl
        (by decide) (by decide) rfl
    · exact @Argument.Allowed.flag checkForms ⟨"deny-empty-outputs", none, false⟩ rfl
        (by decide) (by decide) rfl

/-! ### What is found in the arguments of a check -/

section Found

open Argument

variable (files : List String) (config : Config) (enumerations : Option String)

theorem operands_check :
    operands (checkOptions config enumerations ++ files.map .operand) = files := by
  simp [operands, checkOptions]

theorem validators_check :
    valuesOf "validator" (checkOptions config enumerations ++ files.map .operand) =
      config.selected := by
  simp [valuesOf, checkOptions]

theorem enumerations_check :
    atMostOne? "enums" (checkOptions config enumerations ++ files.map .operand) =
      some enumerations := by
  have values : valuesOf "enums" (checkOptions config enumerations ++ files.map .operand) =
      enumerations.toList := by
    simp [valuesOf, checkOptions]
  rw [atMostOne?, values]
  cases enumerations <;> rfl

theorem choice_check :
    lastOf? (flagsAmong ["allow-empty-outputs", "deny-empty-outputs"]
        (checkOptions config enumerations ++ files.map .operand)) =
      some (some (if config.allowEmptyOutputs then "allow-empty-outputs"
        else "deny-empty-outputs")) := by
  simp [flagsAmong, checkOptions, lastOf?]

theorem debug_check :
    count "debug" (checkOptions config enumerations ++ files.map .operand) = 0 := by
  rw [count, List.count_eq_zero]
  rcases config with ⟨selected, allowEmptyOutputs⟩
  cases allowEmptyOutputs <;> simp [checkOptions]

end Found

theorem path?_of_ne {text : String} (named : text ≠ "") : path? text = some text := by
  rw [path?, if_neg]
  simpa using named

theorem mapM_path? {files : List String} (named : "" ∉ files) : files.mapM path? = some files := by
  induction files with
  | nil => rfl
  | cons file files ih =>
    rw [List.mem_cons, not_or] at named
    rw [List.mapM_cons, path?_of_ne (Ne.symm named.1), ih named.2]
    rfl

theorem absentOr_path? {text : Option String} (named : text ≠ some "") :
    absentOr path? text = some text := by
  cases text with
  | none => rfl
  | some path => rw [absentOr, path?_of_ne fun empty => named (congrArg some empty), Option.map_some]

/-- **Every check of files with names can be asked for.**  The validators are named one after the
other, in any order and as often as one likes. -/
theorem ofArguments?_checkArguments {files : List String} {enumerations : Option String}
    (someFile : files ≠ []) (filesNamed : "" ∉ files) (enumerationsNamed : enumerations ≠ some "")
    (config : Config) :
    ofArguments? (checkArguments files config enumerations) =
      some (.check files config enumerations) := by
  have found : split? checkForms
      ((checkOptions config enumerations).map Argument.writtenOption ++ "--" :: files) =
        some (checkOptions config enumerations ++ files.map .operand) := by
    rw [split?, Argument.split?_writtenOptions (checkOptions_allowed config enumerations),
      Option.bind_eq_bind, Option.bind_some, debug_check]
    rfl
  have notEmpty : files.isEmpty = false := by simpa using someFile
  change check? ((checkOptions config enumerations).map Argument.writtenOption ++ "--" :: files) = _
  simp only [check?, found, operands_check, validators_check, enumerations_check, choice_check,
    mapM_path? filesNamed, absentOr_path? enumerationsNamed, notEmpty, Option.bind_eq_bind,
    Option.bind_some]
  rcases config with ⟨selected, allowEmptyOutputs⟩
  cases allowEmptyOutputs <;> rfl

end Command
end CellCheck
