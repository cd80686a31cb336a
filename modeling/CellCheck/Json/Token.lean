import CellCheck.Text.Basic

/-!
# The tokens of JSON

Strings, numbers, words and single marks, with blanks between them.  Everything about characters
is decided here: which characters and escapes a string may hold, and how a number is written.  A
number has no value, because no stored form of a table, an enumeration or a configuration has a
number in it.
-/

namespace CellCheck
namespace Json

inductive Token where
  /-- A bracket, a brace, a comma or a colon. -/
  | mark (c : Char)
  | null
  | boolean (value : Bool)
  | number
  /-- A string and its value, which is absent if an escape in it stands for no character. -/
  | string (value : Option String)
deriving DecidableEq, Repr

namespace Token

def isBlank (c : Char) : Bool := c = ' ' || c = '\n' || c = '\t' || c = '\r'

def isMark (c : Char) : Bool := ['{', '}', '[', ']', ',', ':'].contains c

/-! ## Strings -/

def hexDigit? (c : Char) : Option Nat :=
  if '0' ≤ c ∧ c ≤ '9' then some (c.toNat - '0'.toNat)
  else if 'a' ≤ c ∧ c ≤ 'f' then some (c.toNat - 'a'.toNat + 10)
  else if 'A' ≤ c ∧ c ≤ 'F' then some (c.toNat - 'A'.toNat + 10)
  else none

/-- The number that four hexadecimal digits stand for. -/
def hexNumber? (a b c d : Char) : Option Nat := do
  return (← hexDigit? a) * 4096 + (← hexDigit? b) * 256 + (← hexDigit? c) * 16 + (← hexDigit? d)

/-- The character that a backslash with one letter stands for. -/
def shortEscape? : Char → Option Char
  | '"' => some '"'
  | '\\' => some '\\'
  | '/' => some '/'
  | 'b' => some '\x08'
  | 'f' => some '\x0c'
  | 'n' => some '\n'
  | 'r' => some '\r'
  | 't' => some '\t'
  | _ => none

def isHighSurrogate (unit : Nat) : Bool := 0xD800 ≤ unit && unit < 0xDC00

def isLowSurrogate (unit : Nat) : Bool := 0xDC00 ≤ unit && unit < 0xE000

def ofSurrogates (high low : Nat) : Char :=
  Char.ofNat (0x10000 + (high - 0xD800) * 0x400 + (low - 0xDC00))

/-- Read the second half of a surrogate pair, if it comes next as an escape of its own. -/
def readSecondHalf? (cs : List Char) : Option (Nat × Fewer cs) :=
  match cs with
  | '\\' :: 'u' :: a :: b :: c :: d :: rest => do
    let unit ← hexNumber? a b c d
    if isLowSurrogate unit then
      some (unit, ⟨rest, by simp only [List.length_cons]; omega⟩)
    else none
  | _ => none

/-- Read what follows a backslash: one letter, or four hexadecimal digits, or a surrogate pair in
two such escapes.  Half of a pair alone is an escape as well, but it stands for no character. -/
def readEscape (cs : List Char) : Option (Option Char × Fewer cs) :=
  match cs with
  | 'u' :: a :: b :: c :: d :: rest => do
    let unit ← hexNumber? a b c d
    let next : Fewer ('u' :: a :: b :: c :: d :: rest) :=
      ⟨rest, by simp only [List.length_cons]; omega⟩
    if isHighSurrogate unit then
      match readSecondHalf? rest with
      | some (second, last) => some (some (ofSurrogates unit second), next.trans last)
      | none => some (none, next)
    else if isLowSurrogate unit then some (none, next)
    else some (some (Char.ofNat unit), next)
  | letter :: rest => (shortEscape? letter).map fun c => (some c, Fewer.tail letter rest)
  | [] => none

/-- A character put before the characters of a string, if both are there. -/
def prepend (first : Option Char) (value : Option (List Char)) : Option (List Char) :=
  first.bind fun c => value.map (c :: ·)

/-- Read the rest of a string after its opening quote.  Control characters are refused.  The value
is absent if half of a surrogate pair stands alone somewhere in the string. -/
def readString (cs : List Char) : Option (Option (List Char) × Fewer cs) :=
  match cs with
  | [] => none
  | '"' :: rest => some (some [], Fewer.tail '"' rest)
  | '\\' :: rest =>
    match readEscape rest with
    | none => none
    | some (c, after) =>
      match readString after.val with
      | none => none
      | some (value, last) => some (prepend c value, (after.trans last).cons '\\')
  | c :: rest =>
    if c.toNat < 0x20 then none
    else
      match readString rest with
      | none => none
      | some (value, last) => some (prepend (some c) value, last.cons c)
termination_by cs.length
decreasing_by
  · exact Nat.lt_succ_of_lt after.property
  · exact Nat.lt_succ_self _

/-! ## Numbers -/

/-- What follows one or more digits. -/
def skipDigits? (cs : List Char) : Option (Fewer cs) :=
  match cs with
  | c :: rest =>
    if c.isDigit then
      some ((Fewer.tail c rest).ofLe _ (List.dropWhile_suffix Char.isDigit).length_le)
    else none
  | [] => none

/-- What follows the digits before the point: a lone zero, or digits that do not start with one. -/
def skipWhole? (cs : List Char) : Option (Fewer cs) :=
  match cs with
  | '0' :: rest => some (Fewer.tail '0' rest)
  | cs => skipDigits? cs

/-- What follows a whole number and the point and digits after it, if there are any. -/
def skipDecimal? (cs : List Char) : Option (Fewer cs) := do
  let whole ← skipWhole? cs
  match whole with
  | ⟨'.' :: rest, shorter⟩ =>
    let fraction ← skipDigits? rest
    some ⟨fraction.val, Nat.lt_trans (Nat.lt_succ_of_lt fraction.property) shorter⟩
  | whole => some whole

/-- The characters after a sign, if there is one. -/
def afterSign : List Char → List Char
  | '+' :: rest | '-' :: rest => rest
  | cs => cs

theorem length_afterSign_le (cs : List Char) : (afterSign cs).length ≤ cs.length := by
  fun_cases afterSign cs <;> simp

/-- What follows a number without a sign, with an exponent or not. -/
def skipUnsigned? (cs : List Char) : Option (Fewer cs) := do
  let decimal ← skipDecimal? cs
  match decimal with
  | ⟨c :: rest, shorter⟩ =>
    if c = 'e' ∨ c = 'E' then
      let exponent ← skipDigits? (afterSign rest)
      some ⟨exponent.val, Nat.lt_trans exponent.property
        (Nat.lt_of_le_of_lt (length_afterSign_le rest) (Nat.lt_of_succ_lt shorter))⟩
    else some ⟨c :: rest, shorter⟩
  | decimal => some decimal

def skipNumber? (cs : List Char) : Option (Fewer cs) :=
  match cs with
  | '-' :: rest => (skipUnsigned? rest).map (Fewer.cons '-')
  | cs => skipUnsigned? cs

/-! ## Texts -/

/-- Read the token at the start of a text that does not start with a blank. -/
def read (cs : List Char) : Option (Token × Fewer cs) :=
  match cs with
  | 'n' :: 'u' :: 'l' :: 'l' :: rest =>
    some (.null, ⟨rest, by simp only [List.length_cons]; omega⟩)
  | 't' :: 'r' :: 'u' :: 'e' :: rest =>
    some (.boolean true, ⟨rest, by simp only [List.length_cons]; omega⟩)
  | 'f' :: 'a' :: 'l' :: 's' :: 'e' :: rest =>
    some (.boolean false, ⟨rest, by simp only [List.length_cons]; omega⟩)
  | '"' :: rest =>
    (readString rest).map fun (value, last) =>
      (.string (value.map String.ofList), last.cons '"')
  | c :: rest =>
    if isMark c then some (.mark c, Fewer.tail c rest)
    else (skipNumber? (c :: rest)).map fun last => (.number, last)
  | [] => none

/-- The tokens of a text, if every part of it is one. -/
def ofChars? (cs : List Char) : Option (List Token) :=
  match cs with
  | [] => some []
  | c :: rest =>
    if isBlank c then ofChars? rest
    else
      match read (c :: rest) with
      | none => none
      | some (token, last) => (ofChars? last.val).map (token :: ·)
termination_by cs.length
decreasing_by
  · exact Nat.lt_succ_self _
  · exact last.property

end Token
end Json
end CellCheck
