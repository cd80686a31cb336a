import CellCheck.Text.Basic

/-!
# Types

The types of expressions and their subtype relation.  `top` is the type of the empty expression
and lies above all others; the three numeric types form a chain; apart from that no two types are
related.

A column declares its type by a reference, which is the name of a type or the name of an
enumeration.  The values of an enumeration are strings.
-/

namespace CellCheck

inductive Ty where
  | top | boolean | string | integer | long | double | date
deriving DecidableEq, Repr

namespace Ty

/-- Whether every value of the first type is acceptable where the second is asked for. -/
def isSubtype : Ty → Ty → Bool
  | _, top => true
  | integer, long | integer, double | long, double => true
  | sub, super => sub = super

def isNumeric : Ty → Bool
  | integer | long | double => true
  | _ => false

/-- Whether a range may have bounds of this type. -/
def isOrdered : Ty → Bool
  | integer | long | double | date => true
  | _ => false

/-- How reports name a type. -/
def print : Ty → String
  | top => "TOP"
  | boolean => "BOOLEAN"
  | string => "STRING"
  | integer => "INTEGER"
  | long => "LONG"
  | double => "DOUBLE"
  | date => "DATE"

def all : List Ty := [top, boolean, string, integer, long, double, date]

/-- The type with the given name in reports. -/
def ofPrinted? (text : String) : Option Ty := all.find? fun ty => ty.print = text

/-- The type that a reference names.  Blanks around the name and the difference between capitals
and small letters do not matter, and `top` cannot be named.  Only the ASCII letters need to be
brought to small ones: no other character has a small form made up of letters of a type's name. -/
def ofName? (name : String) : Option Ty :=
  let word := String.ofList ((Text.trimChars name.toList).map Char.toLower)
  if word = "integer" then some integer
  else if word = "long" then some long
  else if word = "double" then some double
  else if word = "string" then some string
  else if word = "boolean" then some boolean
  else if word = "date" then some date
  else none

end Ty

/-- The type that a column declares. -/
structure DeclaredType where
  base : Ty
  /-- The enumeration that the values must belong to, if the column names one. -/
  enumeration : Option String
deriving DecidableEq, Repr

namespace DeclaredType

def ofBase (base : Ty) : DeclaredType := ⟨base, none⟩

/-- An enumeration, whose values are strings. -/
def ofEnumeration (name : String) : DeclaredType := ⟨.string, some name⟩

/-- The type that a column's reference declares.  Without a reference, or with a blank one, anything
well typed is accepted; a reference that names no type names an enumeration. -/
def ofReference (reference : Option String) : DeclaredType :=
  match reference with
  | none => ofBase .top
  | some name =>
    if (Text.trim name).isEmpty then ofBase .top
    else
      match Ty.ofName? name with
      | some base => ofBase base
      | none => ofEnumeration (Text.trim name)

def print (declared : DeclaredType) : String :=
  match declared.enumeration with
  | none => declared.base.print
  | some name => declared.base.print ++ " (" ++ name ++ ")"

end DeclaredType
end CellCheck
