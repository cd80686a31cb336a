/-!
# Options and values

A command's arguments are split into options, each with its value if it takes one, and values that
stand alone.  An argument that starts with a minus sign is an option, except for a lone minus
sign; after `--` every argument is a value.  A long option takes its value after an equals sign or
from the next argument.  Short options that take no value can be joined behind one minus sign; one
that takes a value takes the rest of its argument, from which one equals sign is dropped, or the
next argument if nothing is left.

An argument that looks like an option is never taken as the value of the option before it.
-/

namespace CellCheck

structure OptionForm where
  long : String
  short : Option Char
  takesValue : Bool
deriving DecidableEq, Repr

inductive Argument where
  /-- An option without a value, by its long name. -/
  | flag (name : String)
  /-- An option with its value, by its long name. -/
  | option (name value : String)
  | operand (text : String)
deriving DecidableEq, Repr

namespace Argument

/-- Whether an argument is an option, or the mark after which there are none. -/
def looksLikeOption (argument : String) : Bool :=
  argument.toList.head? = some '-' && argument.length ≠ 1

/-- What an argument holds besides options that are complete in themselves. -/
inductive Pending where
  /-- Nothing. -/
  | complete
  /-- An option, by its long name, whose value is the next argument. -/
  | awaits (name : String)
deriving DecidableEq, Repr

/-- Split a long option, given without its two minus signs. -/
def ofLong? (forms : List OptionForm) (body : List Char) : Option (List Argument × Pending) := do
  let name := String.ofList (body.takeWhile (· ≠ '='))
  let form ← forms.find? fun form => form.long = name
  match body.dropWhile (· ≠ '='), form.takesValue with
  | [], true => return ([], .awaits form.long)
  | [], false => return ([.flag form.long], .complete)
  | _ :: value, true => return ([.option form.long (String.ofList value)], .complete)
  | _ :: _, false => none

/-- Split short options, given without their minus sign. -/
def ofShort? (forms : List OptionForm) : List Char → Option (List Argument × Pending)
  | [] => some ([], .complete)
  | c :: rest => do
    let form ← forms.find? fun form => form.short = some c
    if form.takesValue then
      match rest with
      | [] => return ([], .awaits form.long)
      | '=' :: value => return ([.option form.long (String.ofList value)], .complete)
      | value => return ([.option form.long (String.ofList value)], .complete)
    else
      let (others, pending) ← ofShort? forms rest
      return (.flag form.long :: others, pending)

/-- Split an argument that looks like an option. -/
def ofOption? (forms : List OptionForm) (argument : String) : Option (List Argument × Pending) :=
  match argument.toList with
  | '-' :: '-' :: body => ofLong? forms body
  | '-' :: body => ofShort? forms body
  | _ => none

/-- Split all arguments of a command, if its options allow it. -/
def split? (forms : List OptionForm) : List String → Option (List Argument)
  | [] => some []
  | [argument] =>
    if argument = "--" then some []
    else if looksLikeOption argument then
      match ofOption? forms argument with
      | some (found, .complete) => some found
      | _ => none
    else some [.operand argument]
  | argument :: next :: rest =>
    if argument = "--" then some ((next :: rest).map .operand)
    else if looksLikeOption argument then
      match ofOption? forms argument with
      | some (found, .complete) => (split? forms (next :: rest)).map (found ++ ·)
      | some (found, .awaits name) =>
        if looksLikeOption next then none
        else (split? forms rest).map (found ++ .option name next :: ·)
      | none => none
    else (split? forms (next :: rest)).map (.operand argument :: ·)

/-- The values that stand alone. -/
def operands (arguments : List Argument) : List String :=
  arguments.filterMap fun
    | operand text => some text
    | _ => none

def valuesOf (name : String) (arguments : List Argument) : List String :=
  arguments.filterMap fun
    | option other value => if other = name then some value else none
    | _ => none

/-- The value of an option that may be given once at most. -/
def atMostOne? (name : String) (arguments : List Argument) : Option (Option String) :=
  match valuesOf name arguments with
  | [] => some none
  | [value] => some (some value)
  | _ => none

def count (name : String) (arguments : List Argument) : Nat := arguments.count (.flag name)

/-- The flags among some that override each other, in order. -/
def flagsAmong (names : List String) (arguments : List Argument) : List String :=
  arguments.filterMap fun
    | flag name => if names.contains name then some name else none
    | _ => none

/-- The one of some flags that counts, which is the last.  The same flag twice with no other
between is refused. -/
def lastOf? : List String → Option (Option String)
  | [] => some none
  | [name] => some (some name)
  | name :: next :: rest => if name = next then none else lastOf? (next :: rest)

end Argument
end CellCheck
