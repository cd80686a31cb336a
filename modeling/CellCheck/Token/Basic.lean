/-!
# Tokens

A cell is read as a list of tokens.  Tokens carry their value, not their place; a token with the
offset at which it starts is `Placed`.  Offsets count characters.

Characters that start no token, and a string without its closing quote, are tokens as well, so that
every text has a list of tokens and the parser is the only place where a cell is refused.
-/

namespace CellCheck

/-- Keywords, operators and delimiters. -/
inductive Symbol where
  | true | false | and | or | not
  | plus | minus | star | starStar | slash
  | less | greater | lessEqual | greaterEqual
  | leftParen | rightParen | leftBracket | rightBracket
  | comma | dots
deriving DecidableEq, Repr

def Symbol.text : Symbol → String
  | .true => "true"
  | .false => "false"
  | .and => "and"
  | .or => "or"
  | .not => "not"
  | .plus => "+"
  | .minus => "-"
  | .star => "*"
  | .starStar => "**"
  | .slash => "/"
  | .less => "<"
  | .greater => ">"
  | .lessEqual => "<="
  | .greaterEqual => ">="
  | .leftParen => "("
  | .rightParen => ")"
  | .leftBracket => "["
  | .rightBracket => "]"
  | .comma => ","
  | .dots => ".."

inductive Token where
  | identifier (name : String)
  /-- Digits, with a point among them or not; never a sign. -/
  | number (text : String)
  /-- The value of a string literal, without quotes. -/
  | string (value : String)
  | symbol (symbol : Symbol)
  /-- A character that starts no token. -/
  | illegal (character : Char)
  /-- A string literal that the text ends in. -/
  | unterminatedString
  /-- The end of the text. -/
  | endOfText
deriving DecidableEq, Repr

namespace Token

/-- How messages name a token. -/
def describe : Token → String
  | identifier name => "identifier '" ++ name ++ "'"
  | number text => "number " ++ text
  | string value => "string \"" ++ value ++ "\""
  | .symbol s => "'" ++ s.text ++ "'"
  | illegal character => "character '" ++ String.singleton character ++ "'"
  | unterminatedString => "unterminated string"
  | endOfText => "end of input"

/-- The keyword that a word is, if it is one.  Capitals matter. -/
def keyword? (word : String) : Option Symbol :=
  [Symbol.true, .false, .and, .or, .not].find? fun keyword => keyword.text = word

/-- The token of a word that starts like an identifier. -/
def ofWord (word : String) : Token :=
  match keyword? word with
  | some keyword => .symbol keyword
  | none => .identifier word

/-- A token with the offset of its first character. -/
structure Placed where
  token : Token
  offset : Nat
deriving DecidableEq, Repr

end Token
end CellCheck
