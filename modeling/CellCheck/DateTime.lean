import CellCheck.Number.Decimal
import CellCheck.Text.Basic

/-!
# Date-times

A date-time is a day of the proleptic Gregorian calendar, in which the year 0 exists and is a leap
year, with a time of day to the nanosecond and without a time zone.  A minute may have a
sixty-first second, in which case it comes after the fifty-ninth and before the next minute;
nothing is said about which minutes really had one.

The text form is `2015-11-30T12:00:00`, with an optional fraction of the second.  Reading is more
liberal than writing: blanks may stand before each part, the parts need no leading zeros, and a
year with a sign may have any number of digits.  Reading fails with one of four problems,
and the first problem from the left is the one reported.
-/

namespace CellCheck

/-- Years that the days of the calendar are known for. -/
def firstYear : Int := -262143
def lastYear : Int := 262142

def isLeapYear (year : Int) : Bool :=
  year % 4 == 0 && (year % 100 != 0 || year % 400 == 0)

def daysInMonth (year : Int) (month : Nat) : Nat :=
  if month = 2 then (if isLeapYear year then 29 else 28)
  else if month = 4 ∨ month = 6 ∨ month = 9 ∨ month = 11 then 30
  else 31

/-- A day with a time of day.  The second 60 is the additional second of a minute. -/
structure DateTime where
  year : Int
  month : Nat
  day : Nat
  hour : Nat
  minute : Nat
  second : Nat
  nanosecond : Nat
  year_mem : firstYear ≤ year ∧ year ≤ lastYear
  month_mem : 1 ≤ month ∧ month ≤ 12
  day_mem : 1 ≤ day ∧ day ≤ daysInMonth year month
  hour_lt : hour < 24
  minute_lt : minute < 60
  second_le : second ≤ 60
  nanosecond_lt : nanosecond < 10 ^ 9
deriving DecidableEq

namespace DateTime

/-- A number that orders date-times: by the year, then the month, and so on down to the
nanosecond. -/
def rank (t : DateTime) : Int :=
  (((((t.year * 13 + t.month) * 32 + t.day) * 24 + t.hour) * 60 + t.minute) * 61 + t.second) *
    10 ^ 9 + t.nanosecond

/-! ## Writing -/

/-- Decimal digits with zeros in front up to a width. -/
def padded (width n : Nat) : List Char :=
  let digits := Nat.toDigits 10 n
  List.replicate (width - digits.length) '0' ++ digits

/-- Years of up to four digits have no sign; the others have one, which makes them readable
again. -/
def yearChars (year : Int) : List Char :=
  if year < 0 then '-' :: padded 4 year.natAbs
  else if year ≤ 9999 then padded 4 year.natAbs
  else '+' :: padded 4 year.natAbs

/-- The fraction of the second in three, six or nine digits, the fewest that are exact, or
nothing. -/
def fractionChars (nanosecond : Nat) : List Char :=
  if nanosecond = 0 then []
  else if nanosecond % 10 ^ 6 = 0 then '.' :: padded 3 (nanosecond / 10 ^ 6)
  else if nanosecond % 10 ^ 3 = 0 then '.' :: padded 6 (nanosecond / 10 ^ 3)
  else '.' :: padded 9 nanosecond

def toChars (t : DateTime) : List Char :=
  yearChars t.year ++ '-' :: padded 2 t.month ++ '-' :: padded 2 t.day ++
    'T' :: padded 2 t.hour ++ ':' :: padded 2 t.minute ++ ':' :: padded 2 t.second ++
    fractionChars t.nanosecond

/-! ## Reading -/

inductive Problem where
  | prematureEnd
  | invalidCharacter
  | outOfRange
  | trailingInput
deriving DecidableEq, Repr

def Problem.message : Problem → String
  | prematureEnd => "premature end of input"
  | invalidCharacter => "input contains invalid characters"
  | outOfRange => "input is out of range"
  | trailingInput => "trailing input"

/-- One or more of the given characters taken as decimal digits: their value and number. -/
def readDigits (candidates : List Char) : Except Problem (Nat × Nat) :=
  match candidates.takeWhile Char.isDigit with
  | [] => .error (if candidates.isEmpty then .prematureEnd else .invalidCharacter)
  | ds => .ok (Nat.ofDigitChars 10 ds 0, ds.length)

/-- A number of at most `limit` digits, and what follows it. -/
def readNumber (limit : Nat) (cs : List Char) : Except Problem (Nat × List Char) := do
  let (value, count) ← readDigits (cs.take limit)
  return (value, cs.drop count)

/-- A number of any length, and what follows it. -/
def readLongNumber (cs : List Char) : Except Problem (Nat × List Char) := do
  let (value, count) ← readDigits cs
  return (value, cs.drop count)

/-- A year of any size: four digits at most, or a sign and any number of digits. -/
def readAnyYear (cs : List Char) : Except Problem (Int × List Char) :=
  match Text.dropBlanks cs with
  | '-' :: cs => do
    let (size, rest) ← readLongNumber cs
    return (-(size : Int), rest)
  | '+' :: cs => do
    let (size, rest) ← readLongNumber cs
    return ((size : Int), rest)
  | cs => do
    let (size, rest) ← readNumber 4 cs
    return ((size : Int), rest)

/-- The year.  The calendar's own limits are examined only when the whole text has been read; here
a year need only fit into thirty-two bits. -/
def readYear (cs : List Char) : Except Problem (Int × List Char) := do
  let (value, rest) ← readAnyYear cs
  if -2 ^ 31 ≤ value ∧ value < 2 ^ 31 then return (value, rest) else throw .outOfRange

/-- A field of one or two digits between two bounds. -/
def readField (least most : Nat) (cs : List Char) : Except Problem (Nat × List Char) := do
  let (value, rest) ← readNumber 2 (Text.dropBlanks cs)
  if least ≤ value ∧ value ≤ most then return (value, rest) else throw .outOfRange

/-- A fixed character, with blanks allowed before it. -/
def readMark (expected : Char) (cs : List Char) : Except Problem (List Char) :=
  match Text.dropBlanks cs with
  | [] => .error .prematureEnd
  | c :: rest => if c = expected then .ok rest else .error .invalidCharacter

/-- The fraction of the second, in nanoseconds.  Digits beyond the ninth are passed over. -/
def readFraction (cs : List Char) : Except Problem (Nat × List Char) :=
  match cs with
  | '.' :: cs => do
    let (value, count) ← readDigits (cs.take 9)
    return (value * 10 ^ (9 - count), (cs.drop count).dropWhile Char.isDigit)
  | _ => .ok (0, cs)

/-- The date-time with the given fields, unless the calendar has no such day. -/
def ofFields (year : Int) (month day hour minute second nanosecond : Nat) :
    Except Problem DateTime :=
  if h : (firstYear ≤ year ∧ year ≤ lastYear) ∧ (1 ≤ month ∧ month ≤ 12) ∧
      (1 ≤ day ∧ day ≤ daysInMonth year month) ∧ hour < 24 ∧ minute < 60 ∧ second ≤ 60 ∧
      nanosecond < 10 ^ 9 then
    .ok { year, month, day, hour, minute, second, nanosecond
          year_mem := h.1, month_mem := h.2.1, day_mem := h.2.2.1, hour_lt := h.2.2.2.1
          minute_lt := h.2.2.2.2.1, second_le := h.2.2.2.2.2.1, nanosecond_lt := h.2.2.2.2.2.2 }
  else .error .outOfRange

def ofChars (cs : List Char) : Except Problem DateTime := do
  let (year, cs) ← readYear cs
  let cs ← readMark '-' cs
  let (month, cs) ← readField 1 12 cs
  let cs ← readMark '-' cs
  let (day, cs) ← readField 1 31 cs
  let cs ← readMark 'T' cs
  let (hour, cs) ← readField 0 23 cs
  let cs ← readMark ':' cs
  let (minute, cs) ← readField 0 59 cs
  let cs ← readMark ':' cs
  let (second, cs) ← readField 0 60 cs
  let (nanosecond, cs) ← readFraction cs
  if (Text.dropBlanks cs).isEmpty then ofFields year month day hour minute second nanosecond
  else throw .trailingInput

end DateTime
end CellCheck
