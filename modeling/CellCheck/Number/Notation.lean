import CellCheck.Number.Double

/-!
# Numbers given as arguments

A number given on the command line may have a sign, may leave out the digits on one side of the
point, and may end in an exponent; the words `inf`, `infinity` and `nan` are numbers as well, in
any mixture of capitals.  Blanks are not allowed.  The cells of a table have a stricter form of
their own, which the lexer defines.
-/

namespace CellCheck
namespace Double

/-- Bring the exponent of a decimal into a range in which the nearest double can be computed.
Beyond `10 ^ 400` every decimal is nearest to an infinity and below `10 ^ (-400)` to zero,
whatever the exponent is. -/
def clampExponent (d : Decimal) : Decimal :=
  if d.digits = 0 then ⟨0, 0⟩
  else if 400 < d.exponent then ⟨d.digits, 400⟩
  else if d.exponent + (Nat.toDigits 10 d.digits).length < -400 then ⟨0, 0⟩
  else d

/-- The value of an exponent: an optional sign, then at least one digit and nothing else. -/
def exponent? (cs : List Char) : Option Int :=
  let (negative, digits) :=
    match cs with
    | '-' :: rest => (true, rest)
    | '+' :: rest => (false, rest)
    | _ => (false, cs)
  if digits.isEmpty || !digits.all Char.isDigit then none
  else
    let size : Int := Nat.ofDigitChars 10 digits 0
    some (if negative then -size else size)

/-- A decimal without a sign: digits, at most one point, and an optional exponent. -/
def decimal? (cs : List Char) : Option Decimal :=
  let (whole, afterWhole) := cs.span Char.isDigit
  let (fraction, rest) :=
    match afterWhole with
    | '.' :: afterPoint => afterPoint.span Char.isDigit
    | _ => ([], afterWhole)
  if whole.isEmpty && fraction.isEmpty then none
  else
    let digits := Nat.ofDigitChars 10 (whole ++ fraction) 0
    match rest with
    | [] => some ⟨digits, -(fraction.length : Int)⟩
    | c :: power =>
      if c = 'e' ∨ c = 'E' then
        (exponent? power).map fun e => ⟨digits, e - fraction.length⟩
      else none

def ofArgument? (text : String) : Option Double :=
  let (negative, body) :=
    match text.toList with
    | '-' :: rest => (true, rest)
    | '+' :: rest => (false, rest)
    | cs => (false, cs)
  let word := String.ofList (body.map Char.toLower)
  if word = "inf" ∨ word = "infinity" then some (infinity negative)
  else if word = "nan" then some { nan with negative }
  else (decimal? body).map fun d => ofDecimal negative (clampExponent d)

end Double
end CellCheck
