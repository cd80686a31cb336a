import CellCheck.Expr.Parser
import CellCheck.Token.Lexer

/-!
# Cells

A cell is a text.  A text without tokens and a lone minus sign both mean that the cell has no
condition; every other text has to be read completely as a list of alternatives.

`Cell.parse` reads a cell from its start.  A `Cell.Session` reads the same cell several times,
each time from the token at which it stopped before; after a failure this is the token that the
parser could not get past.
-/

namespace CellCheck
namespace Cell

/-- A cell that is being read. -/
structure Session where
  text : String
  /-- The tokens of the text, without the mark of its end. -/
  tokens : List Token.Placed
  /-- How many of the tokens have been read. -/
  cursor : Nat
deriving DecidableEq, Repr

namespace Session

/-- The start of a cell. -/
def ofText (text : String) : Session := ⟨text, (Lexer.ofText text).tokens, 0⟩

/-- The tokens of the cell without their places. -/
def bare (s : Session) : List Token := s.tokens.map Token.Placed.token

/-- Whether the cell has no condition. -/
def isBlank (s : Session) : Bool := s.bare = [] || s.bare = [.symbol .minus]

/-- How many tokens lie before a place that is given by the tokens from there on. -/
def before (s : Session) (rest : List Token) : Nat := s.tokens.length - rest.length

/-- The offset of a token, or of the end of the text. -/
def offset (s : Session) (index : Nat) : Nat :=
  match s.tokens[index]? with
  | some placed => placed.offset
  | none => s.text.length

/-- Read the cell from the token at which the session stands. -/
def parse (s : Session) : Except ParseError Expr × Session :=
  if s.isBlank then (.ok .empty, s)
  else
    match Parser.complete (s.bare.drop s.cursor) with
    | .ok e => (.ok e, { s with cursor := s.tokens.length })
    | .error failure =>
      (.error ⟨s.text, failure.problem, s.offset (s.before failure.anchor)⟩,
        { s with cursor := s.before failure.stoppedAt })

end Session

/-- The expression of a cell. -/
def parse (text : String) : Except ParseError Expr := (Session.ofText text).parse.1

/-- The expressions of some cells in order, or the first error among them, and the number of cells
that were looked at, which are those up to the first error and with it. -/
def parseAll : List String → Except ParseError (List Expr) × Nat
  | [] => (.ok [], 0)
  | text :: rest =>
    match parse text with
    | .error e => (.error e, 1)
    | .ok first =>
      let (others, looked) := parseAll rest
      (others.map (first :: ·), looked + 1)

end Cell
end CellCheck
