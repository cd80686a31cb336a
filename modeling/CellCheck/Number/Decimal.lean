/-!
# Integers and decimals

The digits of a number in a cell denote an integer if there is no point among them, and a decimal
otherwise.

The integers of a cell are the signed numbers of sixty-four bits.  Reading one never wraps: a text
whose value lies outside the range has no integer.

A decimal is a natural number of digits and a power of ten.  It stands between the text of a number
and the double that is nearest to it: a text is read as a decimal without any rounding, and a double
is written through a decimal that reads back to it.  Signs are kept beside the decimal, never in it.
A decimal is written positionally.  The written form always has a point with at least one digit on
each side, so that it can never be taken for an integer.
-/

namespace CellCheck

/-- Powers of natural numbers and integers are the ones that the kernel computes with.  A module that
imports algebra would read them as powers in a monoid, so the choice is made here once. -/
@[default_instance 20000]
instance (priority := high) power {α : Type} [NatPow α] : Pow α Nat := instPowNat

/-! ## Integers -/

namespace Integer

/-- The integer with the given sign and decimal digits, if it is in range. -/
def ofDigits? (negative : Bool) (digits : List Char) : Option Int64 :=
  let size := Nat.ofDigitChars 10 digits 0
  let value : Int := if negative then -(size : Int) else size
  if -2 ^ 63 ≤ value ∧ value < 2 ^ 63 then some (Int64.ofInt value) else none

/-- The decimal form, with a sign if the integer is negative. -/
def toChars (n : Int64) : List Char :=
  if n.toInt < 0 then '-' :: Nat.toDigits 10 n.toInt.natAbs else Nat.toDigits 10 n.toInt.natAbs

end Integer

/-! ## Decimals -/

/-- The number `digits · 10 ^ exponent`. -/
structure Decimal where
  digits : Nat
  exponent : Int
deriving DecidableEq, Repr

namespace Decimal

/-- Decimal digits with at most one point among them, read exactly.
`12.50` is `1250 · 10 ^ (-2)`. -/
def ofChars (cs : List Char) : Decimal :=
  let whole := cs.takeWhile (· ≠ '.')
  let fraction := (cs.dropWhile (· ≠ '.')).drop 1
  { digits := Nat.ofDigitChars 10 (whole ++ fraction) 0, exponent := -(fraction.length : Int) }

/-- `digits · 10 ^ (-places)` with the fewest decimal places that are exact. -/
def ofPlaces (digits : Nat) : Nat → Decimal
  | 0 => ⟨digits, 0⟩
  | places + 1 =>
    if digits % 10 = 0 then ofPlaces (digits / 10) places else ⟨digits, Int.negSucc places⟩

/-- The same number with the fewest decimal places. -/
def normalize (d : Decimal) : Decimal :=
  match d.exponent with
  | .ofNat _ => d
  | .negSucc places => ofPlaces d.digits (places + 1)

/-- The positional form: digits, a point, digits. -/
def positional (d : Decimal) : List Char :=
  match d.exponent with
  | .ofNat zeros => Nat.toDigits 10 d.digits ++ List.replicate zeros '0' ++ ['.', '0']
  | .negSucc n =>
    let written := Nat.toDigits 10 d.digits
    let padded := List.replicate (n + 2 - written.length) '0' ++ written
    let point := padded.length - (n + 1)
    padded.take point ++ '.' :: padded.drop point

end Decimal

end CellCheck
