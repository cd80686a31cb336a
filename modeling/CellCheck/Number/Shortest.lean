import CellCheck.Number.Double

/-!
# The shortest decimal of a double

A finite double is written with the fewest digits that read back to it.  The digits are found by
search: for one digit, two digits and so on the value lies between two neighbours on the grid of
decimals with that many digits, and the first grid on which one of them reads back decides.  If
both do, the nearer one is taken, and of two equally near ones the upper.

The search looks at seventeen grids, which is enough for every double.  This bound is not proved
here, and need not be: past it the exact expansion of the double is taken, which reads back as
well.
-/

namespace CellCheck
namespace Double

/-- The least `k` for which a positive finite magnitude lies below `10 ^ k`. -/
def decimalLength (magnitude : Nat) : Int :=
  (Nat.toDigits 10 (unitsOf magnitude * 10 ^ 324 / 2 ^ 1074)).length - 324

/-- The value of a magnitude as a quotient of powers `10 ^ exponent`, numerator and denominator. -/
def onGrid (magnitude : Nat) : Int → Nat × Nat
  | .ofNat zeros => (unitsOf magnitude, 2 ^ 1074 * 10 ^ zeros)
  | .negSucc n => (unitsOf magnitude * 10 ^ (n + 1), 2 ^ 1074)

/-- Whether a decimal reads back to a magnitude. -/
def readsBack (magnitude : Nat) (d : Decimal) : Bool :=
  nearestMagnitude (unitsOfDecimal d).1 (unitsOfDecimal d).2 == magnitude

/-- Of two neighbouring decimals the one that reads back; if both do, the nearer one. -/
def chosen (reads : Decimal → Bool) (lower upper : Decimal) (lowerIsNearer : Bool) :
    Option Decimal :=
  match reads lower, reads upper with
  | true, true => some (if lowerIsNearer then lower else upper)
  | true, false => some lower
  | false, true => some upper
  | false, false => none

/-- The decimal on the grid `10 ^ exponent` that reads back to a magnitude, if there is one. -/
def onGrid? (magnitude : Nat) (exponent : Int) : Option Decimal :=
  let (numerator, denominator) := onGrid magnitude exponent
  chosen (readsBack magnitude) ⟨numerator / denominator, exponent⟩
    ⟨numerator / denominator + 1, exponent⟩ (2 * (numerator % denominator) < denominator)

/-- The exact decimal expansion of a finite magnitude. -/
def exactDecimal (magnitude : Nat) : Decimal :=
  ⟨unitsOf magnitude * 5 ^ 1074, -1074⟩

/-- The decimal with the fewest digits that reads back to a finite magnitude. -/
def shortest (magnitude : Nat) : Decimal :=
  if magnitude = 0 then ⟨0, 0⟩
  else
    let length := decimalLength magnitude
    ((List.range 17).findSome? fun (n : Nat) => onGrid? magnitude (length - 1 - n)).getD
      (exactDecimal magnitude)

/-- The written form of a double: a sign if it is negative, then digits with a point among them.  An
infinity is written as a word and the same `.0`, which no number is read from; so is a value that
is not a number, which has no sign. -/
def toChars (x : Double) : List Char :=
  if x.isNaN then "NaN.0".toList
  else (if x.negative then ['-'] else []) ++
    if x.isInfinite then "inf.0".toList else (shortest x.magnitude).normalize.positional

end Double
end CellCheck
