import CellCheck.Number.Decimal

/-!
# Doubles

A double is a sign and a magnitude of sixty-three bits, the exponent and fraction fields of the
binary64 format taken as one natural number.  In this reading the magnitudes of the finite doubles
are exactly the numbers below `infinityMagnitude`, they are ordered as the values are, and the
value of a finite double is a whole number of *units*, the smallest positive double, which is
`2 ^ (-1074)`.

Nothing here uses the machine's floating-point arithmetic.  Rounding goes to the nearest double
and from the middle between two doubles to the one with an even magnitude; beyond the largest
finite double it gives an infinity.  The only arithmetic that the checker does on doubles is the
distance of two of them, which is rounded once, as a single subtraction would be.
-/

namespace CellCheck

/-- A binary64 number: its sign and its remaining sixty-three bits. -/
structure Double where
  negative : Bool
  magnitude : Nat
  magnitude_lt : magnitude < 2 ^ 63
deriving DecidableEq

namespace Double

/-- The magnitude of the infinities.  Smaller magnitudes are finite, larger ones are not numbers. -/
def infinityMagnitude : Nat := 2047 * 2 ^ 52

/-- The magnitude of the default value that is not a number. -/
def nanMagnitude : Nat := infinityMagnitude + 2 ^ 51

def isFinite (x : Double) : Bool := x.magnitude < infinityMagnitude

def isInfinite (x : Double) : Bool := x.magnitude == infinityMagnitude

def isNaN (x : Double) : Bool := infinityMagnitude < x.magnitude

/-! ## Bits -/

/-- The double with the given sixty-four bits, the sign being the highest. -/
def ofBits (bits : UInt64) : Double where
  negative := 2 ^ 63 ≤ bits.toNat
  magnitude := bits.toNat % 2 ^ 63
  magnitude_lt := Nat.mod_lt _ (by decide)

def bits (x : Double) : UInt64 :=
  UInt64.ofNat (if x.negative then 2 ^ 63 + x.magnitude else x.magnitude)

/-! ## Order -/

/-- A number that orders the doubles as their values do and gives both zeros the same place. -/
def rank (x : Double) : Int :=
  if x.negative then -(x.magnitude : Int) else x.magnitude

/-- The order of two doubles.  A value that is not a number has no place in it. -/
def compare? (x y : Double) : Option Ordering :=
  if x.isNaN || y.isNaN then none else some (compare x.rank y.rank)

/-- Equality of values: the two zeros are equal, and no value that is not a number equals
anything. -/
def same (x y : Double) : Bool := x.compare? y == some .eq

/-- Whether `x` is at most `y`.  Always false for a value that is not a number. -/
def atMost (x y : Double) : Bool :=
  match x.compare? y with
  | some .lt | some .eq => true
  | _ => false

/-! ## Rounding -/

/-- A quotient rounded to the nearest natural number, from the middle to the even one. -/
def roundQuotient (numerator denominator : Nat) : Nat :=
  let quotient := numerator / denominator
  let remainder := numerator % denominator
  if 2 * remainder < denominator then quotient
  else if denominator < 2 * remainder then quotient + 1
  else quotient + quotient % 2

/-- The units of a finite magnitude. -/
def unitsOf (magnitude : Nat) : Nat :=
  if magnitude < 2 ^ 52 then magnitude
  else (2 ^ 52 + magnitude % 2 ^ 52) * 2 ^ (magnitude / 2 ^ 52 - 1)

/-- The magnitude nearest to a quotient of units.  Fifty-three binary digits are kept; the
exponent field is what is left of the quotient's length, so that a carry into it needs no care. -/
def nearestMagnitude (numerator denominator : Nat) : Nat :=
  let shift := Nat.log2 (numerator / denominator) - 52
  min (shift * 2 ^ 52 + roundQuotient numerator (denominator * 2 ^ shift)) infinityMagnitude

theorem nearestMagnitude_lt (numerator denominator : Nat) :
    nearestMagnitude numerator denominator < 2 ^ 63 :=
  Nat.lt_of_le_of_lt (Nat.min_le_right _ _) (by decide)

/-- The double nearest to a quotient of units. -/
def nearest (negative : Bool) (numerator denominator : Nat) : Double :=
  ⟨negative, nearestMagnitude numerator denominator, nearestMagnitude_lt _ _⟩

/-- A decimal as a quotient of units, numerator and denominator. -/
def unitsOfDecimal (d : Decimal) : Nat × Nat :=
  match d.exponent with
  | .ofNat zeros => (d.digits * 10 ^ zeros * 2 ^ 1074, 1)
  | .negSucc n => (d.digits * 2 ^ 1074, 10 ^ (n + 1))

/-- The double nearest to a decimal with a sign. -/
def ofDecimal (negative : Bool) (d : Decimal) : Double :=
  nearest negative (unitsOfDecimal d).1 (unitsOfDecimal d).2

/-! ## Distance -/

def infinity (negative : Bool) : Double := ⟨negative, infinityMagnitude, by decide⟩

def nan : Double := ⟨false, nanMagnitude, by decide⟩

def zero : Double := ⟨false, 0, by decide⟩

/-- The units of a finite double with its sign. -/
def units (x : Double) : Int :=
  if x.negative then -(unitsOf x.magnitude : Int) else unitsOf x.magnitude

/-- The distance of two doubles, rounded once.  Two infinities of one sign have no distance. -/
def distance (x y : Double) : Double :=
  if x.isNaN || y.isNaN then nan
  else if x.isInfinite && y.isInfinite && x.negative == y.negative then nan
  else if x.isInfinite || y.isInfinite then infinity false
  else nearest false (x.units - y.units).natAbs 1

/-- Whether two doubles are at most `tolerance` apart. -/
def within (tolerance x y : Double) : Bool :=
  (x.distance y).atMost tolerance

end Double
end CellCheck
