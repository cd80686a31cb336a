import CellCheck.DateTime
import CellCheck.Token.Basic

/-!
# Why a cell does not parse

The parser works on tokens alone.  Where it stops, it reports the problem together with two
places, both given by the tokens from there on: the *anchor*, which is the token that the problem
is about, and the place where the parser stood.  They differ where a problem is noticed only after
more has been read, as for the bound of a range.  Offsets in the text come in only at the very
end, when the anchor is looked up among the placed tokens of the cell.
-/

namespace CellCheck

/-- What the parser can ask for by name. -/
inductive Wanted where
  | symbol (symbol : Symbol)
  | closingBracket
  | numberAfterMinus
  | dateTimeText
deriving DecidableEq, Repr

def Wanted.describe : Wanted → String
  | symbol s => (Token.symbol s).describe
  | closingBracket => "']' or ')'"
  | numberAfterMinus => "a number after '-'"
  | dateTimeText => "a date-time string"

inductive ParseProblem where
  | unexpected (found : Token)
  | expected (wanted : Wanted) (found : Token)
  | unterminatedString
  | boundNotAtom
  /-- An integer with its sign, as it is written. -/
  | integerOutOfRange (digits : String)
  | invalidDate (text : String) (problem : DateTime.Problem)
deriving DecidableEq, Repr

def ParseProblem.message : ParseProblem → String
  | unexpected found => "unexpected " ++ found.describe
  | expected wanted found => "expected " ++ wanted.describe ++ ", found " ++ found.describe
  | unterminatedString => "unterminated string literal"
  | boundNotAtom => "range bounds must be literals or variables"
  | integerOutOfRange digits => "integer " ++ digits ++ " is out of range"
  | invalidDate text problem =>
    "invalid date and time \"" ++ text ++ "\": " ++ problem.message

/-- A problem and the two places that belong to it, as the tokens from there on. -/
structure ParseFailure where
  problem : ParseProblem
  anchor : List Token
  stoppedAt : List Token
deriving DecidableEq, Repr

namespace ParseFailure

def tokenAt (ts : List Token) : Token := ts.headD .endOfText

/-- A problem with the token at which the parser stands. -/
def here (problem : ParseProblem) (ts : List Token) : ParseFailure := ⟨problem, ts, ts⟩

/-- The token at which the parser stands is none that can stand there. -/
def unexpected (ts : List Token) : ParseFailure := here (.unexpected (tokenAt ts)) ts

/-- The token at which the parser stands is not the one that has to stand there. -/
def expected (wanted : Wanted) (ts : List Token) : ParseFailure :=
  here (.expected wanted (tokenAt ts)) ts

end ParseFailure

/-- A problem with a cell: its text, what is wrong, and the offset of the character where it is
wrong. -/
structure ParseError where
  text : String
  problem : ParseProblem
  position : Nat
deriving DecidableEq, Repr

def ParseError.message (e : ParseError) : String :=
  "Could not parse '" ++ e.text ++ "': " ++ e.problem.message ++ " at position " ++
    toString e.position ++ "."

end CellCheck
