import CellCheck.Json.Token

/-!
# JSON

A strict reader for the JSON in which tables, enumerations and configurations are stored.  It takes
the whole text as one value and refuses everything that the format does not allow: comments,
trailing commas, numbers with leading zeros, control characters in strings, and a byte order mark.
The rules hold everywhere, also inside values that nothing asks for.

The format allows half of a surrogate pair as an escape, although it stands for no character.  A
string with such an escape is a value like any other, but it has no text, so asking for its text
fails.  The same holds for the key of an entry.

The entries of an object keep their order and their repetitions.  What a repeated key means is
decided by the one who asks for it.
-/

namespace CellCheck

inductive Json where
  | null
  | boolean (value : Bool)
  | number
  /-- A string and its text, if it has one. -/
  | string (text : Option String)
  | array (items : List Json)
  /-- Values with their keys, each with its text if it has one. -/
  | object (entries : List (Option String × Json))

namespace Json

/-- What follows a comma, or what follows the mark that closes a list. -/
inductive Next (ts : List Token) where
  | more (rest : Fewer ts)
  | done (rest : Fewer ts)

/-- Read a comma or the mark that closes a list. -/
def readNext (close : Char) (ts : List Token) : Option (Next ts) :=
  match ts with
  | .mark c :: rest =>
    if c = ',' then some (.more (Fewer.tail (.mark c) rest))
    else if c = close then some (.done (Fewer.tail (.mark c) rest))
    else none
  | _ => none

mutual

def readValue (ts : List Token) : Option (Json × Fewer ts) :=
  match ts with
  | .null :: rest => some (.null, Fewer.tail .null rest)
  | .boolean value :: rest => some (.boolean value, Fewer.tail (.boolean value) rest)
  | .number :: rest => some (.number, Fewer.tail .number rest)
  | .string value :: rest => some (.string value, Fewer.tail (.string value) rest)
  | .mark '[' :: .mark ']' :: rest =>
    some (.array [], (Fewer.tail (.mark ']') rest).cons (.mark '['))
  | .mark '[' :: inner =>
    match readItems inner with
    | none => none
    | some (items, last) => some (.array items, last.cons (.mark '['))
  | .mark '{' :: .mark '}' :: rest =>
    some (.object [], (Fewer.tail (.mark '}') rest).cons (.mark '{'))
  | .mark '{' :: inner =>
    match readEntries inner with
    | none => none
    | some (entries, last) => some (.object entries, last.cons (.mark '{'))
  | _ => none
termination_by (ts.length, 0)
decreasing_by
  · exact Prod.Lex.left _ _ (Nat.lt_succ_self _)
  · exact Prod.Lex.left _ _ (Nat.lt_succ_self _)

def readItems (ts : List Token) : Option (List Json × Fewer ts) :=
  match readValue ts with
  | none => none
  | some (first, rest) =>
    match readNext ']' rest.val with
    | none => none
    | some (.done last) => some ([first], rest.trans last)
    | some (.more others) =>
      match readItems others.val with
      | none => none
      | some (items, last) => some (first :: items, rest.trans (others.trans last))
termination_by (ts.length, 1)
decreasing_by
  · exact Prod.Lex.right _ (by decide)
  · exact Prod.Lex.left _ _ (Nat.lt_trans others.property rest.property)

def readEntries (ts : List Token) : Option (List (Option String × Json) × Fewer ts) :=
  match ts with
  | .string key :: .mark ':' :: tail =>
    match readValue tail with
    | none => none
    | some (value, rest) =>
      match readNext '}' rest.val with
      | none => none
      | some (.done last) =>
        some ([(key, value)], ((rest.trans last).cons (.mark ':')).cons (.string key))
      | some (.more others) =>
        match readEntries others.val with
        | none => none
        | some (entries, last) =>
          some ((key, value) :: entries,
            ((rest.trans (others.trans last)).cons (.mark ':')).cons (.string key))
  | _ => none
termination_by (ts.length, 1)
decreasing_by
  · exact Prod.Lex.left _ _ (by simp only [List.length_cons]; omega)
  · exact Prod.Lex.left _ _
      (Nat.lt_succ_of_lt (Nat.lt_succ_of_lt (Nat.lt_trans others.property rest.property)))

end

/-- The value of a text that is one value with blanks around it. -/
def ofText? (text : String) : Option Json :=
  match Token.ofChars? text.toList with
  | none => none
  | some ts =>
    match readValue ts with
    | none => none
    | some (value, rest) => if rest.val.isEmpty then some value else none

/-! ## Asking for a form -/

def string? : Json → Option String
  | string text => text
  | _ => none

def boolean? : Json → Option Bool
  | boolean value => some value
  | _ => none

/-- The items of an array, if every one of them has the form that is asked for. -/
def list? {α : Type} (item? : Json → Option α) : Json → Option (List α)
  | array items => items.mapM item?
  | _ => none

def nullable? {α : Type} (form? : Json → Option α) : Json → Option (Option α)
  | null => some none
  | value => (form? value).map some

/-- A field that may be absent, in which case it has a default value. -/
def orDefault {α : Type} (default : α) (form? : Json → Option α) : Option Json → Option α
  | none => some default
  | some value => form? value

/-- The entries of an object with the texts of their keys, if every key has one. -/
def withTexts? (entries : List (Option String × Json)) : Option (List (String × Json)) :=
  entries.mapM fun (key, value) => key.map fun text => (text, value)

/-- The values of the named fields of a record, each absent or present.  A record is stored as an
object, in which other keys are passed over and no named key may be repeated, or as an array of the
fields in order, which may stop early. -/
def record? (names : List String) : Json → Option (List (Option Json))
  | object keyed => do
    let entries ← withTexts? keyed
    names.mapM fun name =>
      match entries.filter fun entry => entry.1 = name with
      | [] => some none
      | [entry] => some (some entry.2)
      | _ => none
  | array items =>
    if items.length ≤ names.length then
      some (items.map some ++ List.replicate (names.length - items.length) none)
    else none
  | _ => none

end Json
end CellCheck
