import CellCheck.Text.Alphabetic
import CellCheck.Text.Basic
import CellCheck.Text.Numeric
import CellCheck.Token.Basic

/-!
# From text to tokens

`Token.read` takes the token at the start of a text that does not start with a blank and says how
many characters it takes up.  A token is decided by its own characters and at most one more: a point
belongs to a number only if a digit follows it, so that `1..5` is a number, two dots and a number.

A `Lexer` is a place in a text: an offset and the characters from there on.  `Lexer.next` skips
blanks, reads one token and moves past it.  At the end of the text it stays there and gives
`Token.endOfText` as often as it is asked.
-/

namespace CellCheck
namespace Token

/-- Whether a character may start an identifier or keyword. -/
def startsWord (c : Char) : Bool := Text.isAlphabetic c || c == '_'

/-- Whether a character may stand inside an identifier or keyword. -/
def continuesWord (c : Char) : Bool := Text.isAlphabetic c || Text.isNumeric c || c == '_'

/-- The value of a string literal, given the text after its opening quote, and the number of
characters up to the closing quote and with it.  A backslash before a quote makes the quote part of
the value and is left out; any other backslash stands for itself. -/
def readQuoted : List Char → Option (List Char × Nat)
  | [] => none
  | '"' :: _ => some ([], 1)
  | '\\' :: '"' :: cs => (readQuoted cs).map fun (value, width) => ('"' :: value, width + 2)
  | c :: cs => (readQuoted cs).map fun (value, width) => (c :: value, width + 1)

/-- The digits at the start of a text, with a point and further digits if a digit follows the
point. -/
def readNumber (cs : List Char) : List Char :=
  let whole := cs.takeWhile Char.isDigit
  match cs.drop whole.length with
  | '.' :: c :: rest =>
    if c.isDigit then whole ++ '.' :: (c :: rest).takeWhile Char.isDigit else whole
  | _ => whole

/-- The token that starts with the character `c`, which is not blank, followed by `cs`, and the
number of characters that it takes up. -/
def read (c : Char) (cs : List Char) : Token × Nat :=
  match c with
  | '+' => (.symbol .plus, 1)
  | '-' => (.symbol .minus, 1)
  | '*' => if cs.head? = some '*' then (.symbol .starStar, 2) else (.symbol .star, 1)
  | '/' => (.symbol .slash, 1)
  | '<' => if cs.head? = some '=' then (.symbol .lessEqual, 2) else (.symbol .less, 1)
  | '>' => if cs.head? = some '=' then (.symbol .greaterEqual, 2) else (.symbol .greater, 1)
  | '.' => if cs.head? = some '.' then (.symbol .dots, 2) else (.illegal '.', 1)
  | '(' => (.symbol .leftParen, 1)
  | ')' => (.symbol .rightParen, 1)
  | '[' => (.symbol .leftBracket, 1)
  | ']' => (.symbol .rightBracket, 1)
  | ',' => (.symbol .comma, 1)
  | '"' =>
    match readQuoted cs with
    | some (value, width) => (.string (String.ofList value), width + 1)
    | none => (.unterminatedString, cs.length + 1)
  | c =>
    if startsWord c then
      let word := c :: cs.takeWhile continuesWord
      (ofWord (String.ofList word), word.length)
    else if c.isDigit then
      let number := readNumber (c :: cs)
      (.number (String.ofList number), number.length)
    else (.illegal c, 1)

end Token

/-- A place in a text. -/
structure Lexer where
  /-- How many characters of the text lie before this place. -/
  offset : Nat
  /-- The characters from this place on. -/
  rest : List Char
deriving DecidableEq, Repr

namespace Lexer

open Token (Placed)

def ofText (text : String) : Lexer := ⟨0, text.toList⟩

/-- The character at this place, if it is not the end of the text. -/
def current? (l : Lexer) : Option Char := l.rest.head?

/-- The place `n` characters further on, which must lie in the text. -/
def advance (n : Nat) (l : Lexer) : Lexer := ⟨l.offset + n, l.rest.drop n⟩

/-- The next place with a character that is not blank, or the end of the text. -/
def skipBlanks (l : Lexer) : Lexer := l.advance (l.rest.takeWhile Text.isBlank).length

/-- The next token and the place after it, or nothing if only blanks are left. -/
def next? (l : Lexer) : Option (Placed × Lexer) :=
  let start := l.skipBlanks
  match start.rest with
  | [] => none
  | c :: cs =>
    let (token, width) := Token.read c cs
    some (⟨token, start.offset⟩, start.advance width)

def atEnd (l : Lexer) : Lexer := l.advance l.rest.length

/-- The token that marks the end of the text. -/
def endMark (l : Lexer) : Placed := ⟨.endOfText, l.atEnd.offset⟩

/-- The next token and the place after it. -/
def next (l : Lexer) : Placed × Lexer := l.next?.getD (l.endMark, l.atEnd)

/-! ## Progress -/

theorem one_le_length_readNumber (c : Char) (cs : List Char) (isDigit : c.isDigit) :
    1 ≤ (Token.readNumber (c :: cs)).length := by
  simp only [Token.readNumber, List.takeWhile_cons, isDigit, if_true]
  split
  · split <;> simp
  · simp

theorem one_le_width (c : Char) (cs : List Char) : 1 ≤ (Token.read c cs).2 := by
  fun_cases Token.read c cs
  case case19 word => exact Nat.le_add_left 1 _
  case case20 isDigit _ => exact one_le_length_readNumber _ _ isDigit
  all_goals simp

theorem rest_lt_of_next? {l next : Lexer} {placed : Placed}
    (read : l.next? = some (placed, next)) :
    next.rest.length < l.rest.length := by
  unfold next? at read
  simp only at read
  split at read
  · exact absurd read (by simp)
  · next c cs here =>
    simp only [Option.some.injEq, Prod.mk.injEq] at read
    obtain ⟨_, rfl⟩ := read
    have width := one_le_width c cs
    have shorter : l.skipBlanks.rest.length ≤ l.rest.length := by
      simp [skipBlanks, advance]
    simp only [advance, here, List.length_drop, List.length_cons] at shorter ⊢
    omega

/-- The tokens from a place up to the end of the text, without the mark of the end. -/
def tokens (l : Lexer) : List Placed :=
  match _read : l.next? with
  | none => []
  | some (placed, next) => placed :: next.tokens
termination_by l.rest.length
decreasing_by exact rest_lt_of_next? _read

/-- The tokens from a place up to the end of the text and the mark of the end, and the place at
the end. -/
def tokenize (l : Lexer) : List Placed × Lexer := (l.tokens ++ [l.endMark], l.atEnd)

end Lexer

/-- The tokens of a text, with the mark of its end. -/
def tokenize (text : String) : List Token.Placed := (Lexer.ofText text).tokenize.1

end CellCheck
