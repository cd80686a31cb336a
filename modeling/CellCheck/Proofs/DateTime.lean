import CellCheck.DateTime
import CellCheck.Proofs.Lexing.Characters
import CellCheck.Proofs.Number.Decimal

/-!
# Date-times and their text form

Every date-time is read back from its text form, leap seconds and years with a sign included.  The
fields are taken off the text one by one: a field of fixed width is never longer than the number of
digits that its reader takes, and a year with a sign ends at the mark that follows it.
-/

namespace CellCheck
namespace DateTime

/-! ## Padded digits -/

theorem isDigit_of_mem_padded {width n : Nat} : ∀ c ∈ padded width n, c.isDigit = true := by
  intro c member
  rcases List.mem_append.mp member with member | member
  · exact Decimal.isDigit_of_mem_zeros c member
  · exact Decimal.isDigit_of_mem_toDigits c member

/-- Zeros in front do not change the number. -/
theorem ofDigitChars_padded (width n : Nat) : Nat.ofDigitChars 10 (padded width n) 0 = n := by
  simp only [padded]
  rw [Nat.ofDigitChars_append, Nat.ofDigitChars_replicate_zero, Nat.mul_zero,
    Nat.ofDigitChars_ten_toDigits]

theorem length_padded {width n : Nat} (positive : 0 < width) (fits : n < 10 ^ width) :
    (padded width n).length = width := by
  have atMost := (Nat.length_toDigits_le_iff (by decide) positive).mpr fits
  simp only [padded, List.length_append, List.length_replicate]
  omega

theorem padded_ne_nil (width n : Nat) : padded width n ≠ [] := by
  simp [padded, Nat.toDigits_ne_nil]

theorem exists_padded_eq_cons (width n : Nat) :
    ∃ c cs, padded width n = c :: cs ∧ c.isDigit = true := by
  rcases List.exists_cons_of_ne_nil (padded_ne_nil width n) with ⟨c, cs, same⟩
  exact ⟨c, cs, same, isDigit_of_mem_padded c (same ▸ List.mem_cons_self)⟩

/-! ## Readers -/

theorem ok_bind {α β : Type} (a : α) (next : α → Except Problem β) :
    (Except.ok a >>= next) = next a := rfl

theorem dropBlanks_of_not_isBlank {c : Char} (notBlank : Text.isBlank c = false) (cs : List Char) :
    Text.dropBlanks (c :: cs) = c :: cs := by
  rw [Text.dropBlanks, List.dropWhile_cons, if_neg (by rw [notBlank]; exact Bool.false_ne_true)]

theorem dropBlanks_padded (width n : Nat) (rest : List Char) :
    Text.dropBlanks (padded width n ++ rest) = padded width n ++ rest := by
  rcases exists_padded_eq_cons width n with ⟨c, cs, same, isDigit⟩
  rw [same]
  exact dropBlanks_of_not_isBlank (Token.isBlank_eq_false_of_isDigit isDigit) _

theorem takeWhile_mark (rest : List Char) : ('-' :: rest).takeWhile Char.isDigit = [] := rfl

theorem readDigits_padded (width n : Nat) {rest : List Char}
    (ends : rest.takeWhile Char.isDigit = []) :
    readDigits (padded width n ++ rest) = .ok (n, (padded width n).length) := by
  have taken : (padded width n ++ rest).takeWhile Char.isDigit = padded width n :=
    Token.takeWhile_append_eq_left isDigit_of_mem_padded ends
  rw [readDigits, taken]
  split
  · next isNil => exact absurd isNil (padded_ne_nil width n)
  · rw [ofDigitChars_padded]

/-- A number of fixed width is read whatever follows it. -/
theorem readNumber_padded {width n : Nat} (positive : 0 < width) (fits : n < 10 ^ width)
    (rest : List Char) : readNumber width (padded width n ++ rest) = .ok (n, rest) := by
  have length := length_padded positive fits
  have taken : (padded width n ++ rest).take width = padded width n ++ [] := by
    rw [List.append_nil, List.take_left' length]
  rw [readNumber, taken, readDigits_padded _ _ rfl, ok_bind]
  simp only [List.drop_left]
  rfl

theorem readLongNumber_padded (width n : Nat) {rest : List Char}
    (ends : rest.takeWhile Char.isDigit = []) :
    readLongNumber (padded width n ++ rest) = .ok (n, rest) := by
  rw [readLongNumber, readDigits_padded _ _ ends, ok_bind]
  simp only [List.drop_left]
  rfl

theorem readField_padded {least most n : Nat} (within : least ≤ n ∧ n ≤ most) (fits : n < 10 ^ 2)
    (rest : List Char) : readField least most (padded 2 n ++ rest) = .ok (n, rest) := by
  rw [readField, dropBlanks_padded, readNumber_padded (by decide) fits, ok_bind]
  exact if_pos within

theorem readMark_cons {mark : Char} (notBlank : Text.isBlank mark = false) (rest : List Char) :
    readMark mark (mark :: rest) = .ok rest := by
  rw [readMark, dropBlanks_of_not_isBlank notBlank]
  exact if_pos rfl

/-- The year is read back together with its sign, if the mark that follows it is there. -/
theorem readAnyYear_yearChars (year : Int) (rest : List Char) :
    readAnyYear (yearChars year ++ '-' :: rest) = .ok (year, '-' :: rest) := by
  have long := readLongNumber_padded 4 year.natAbs (takeWhile_mark rest)
  unfold yearChars
  split
  · have size : -(year.natAbs : Int) = year := by omega
    rw [readAnyYear, List.cons_append, dropBlanks_of_not_isBlank (by decide)]
    simp only [long, ok_bind, size]
    rfl
  · have size : (year.natAbs : Int) = year := by omega
    split
    · have short := readNumber_padded (by decide) (show year.natAbs < 10 ^ 4 by omega) ('-' :: rest)
      rw [readAnyYear, dropBlanks_padded]
      rcases exists_padded_eq_cons 4 year.natAbs with ⟨c, cs, same, isDigit⟩
      rw [same, List.cons_append] at short ⊢
      -- A digit is no sign, so this is a year of four digits at most.
      split
      · next isMinus =>
        cases isMinus
        cases isDigit
      · next isPlus =>
        cases isPlus
        cases isDigit
      · simp only [short, ok_bind, size]
        rfl
    · rw [readAnyYear, List.cons_append, dropBlanks_of_not_isBlank (by decide)]
      simp only [long, ok_bind, size]
      rfl

theorem readYear_yearChars {year : Int} (known : firstYear ≤ year ∧ year ≤ lastYear)
    (rest : List Char) : readYear (yearChars year ++ '-' :: rest) = .ok (year, '-' :: rest) := by
  have fits : -2 ^ 31 ≤ year ∧ year < 2 ^ 31 := by
    unfold firstYear lastYear at known
    omega
  rw [readYear, readAnyYear_yearChars, ok_bind]
  exact if_pos fits

/-- A fraction in `width` digits is read as that many places. -/
theorem readFraction_padded {width n : Nat} (positive : 0 < width) (atMost : width ≤ 9)
    (fits : n < 10 ^ width) :
    readFraction ('.' :: padded width n) = .ok (n * 10 ^ (9 - width), []) := by
  have length := length_padded positive fits
  have taken : (padded width n).take 9 = padded width n ++ [] := by
    rw [List.append_nil, List.take_of_length_le (Nat.le_trans (Nat.le_of_eq length) atMost)]
  have dropped : (padded width n).drop width = [] := List.drop_of_length_le (Nat.le_of_eq length)
  rw [readFraction, taken, readDigits_padded width n (by rfl), length]
  simp only [ok_bind, dropped, List.dropWhile_nil]
  rfl

/-- Only zeros are left out of a fraction. -/
theorem readFraction_fractionChars {nanosecond : Nat} (fits : nanosecond < 10 ^ 9) :
    readFraction (fractionChars nanosecond) = .ok (nanosecond, []) := by
  unfold fractionChars
  split
  · next none =>
    rw [none]
    rfl
  · split
    · next millis =>
      rw [readFraction_padded (by decide) (by decide) (by omega),
        Nat.div_mul_cancel (Nat.dvd_of_mod_eq_zero millis)]
    · split
      · next micros =>
        rw [readFraction_padded (by decide) (by decide) (by omega),
          Nat.div_mul_cancel (Nat.dvd_of_mod_eq_zero micros)]
      · rw [readFraction_padded (by decide) (by decide) fits, Nat.sub_self, Nat.pow_zero,
          Nat.mul_one]

theorem ofFields_eq_ok (t : DateTime) :
    ofFields t.year t.month t.day t.hour t.minute t.second t.nanosecond = .ok t := by
  rw [ofFields, dif_pos ⟨t.year_mem, t.month_mem, t.day_mem, t.hour_lt, t.minute_lt, t.second_le,
    t.nanosecond_lt⟩]

theorem day_le (t : DateTime) : t.day ≤ 31 := by
  refine Nat.le_trans t.day_mem.2 ?_
  unfold daysInMonth
  split
  · split <;> decide
  · split <;> decide

/-- **A date-time is read back from its text form.** -/
theorem ofChars_toChars (t : DateTime) : ofChars t.toChars = .ok t := by
  have month := readField_padded t.month_mem (by have := t.month_mem; omega)
  have day := readField_padded ⟨t.day_mem.1, t.day_le⟩ (by have := t.day_le; omega)
  have hour := readField_padded ⟨Nat.zero_le _, Nat.le_of_lt_succ t.hour_lt⟩
    (by have := t.hour_lt; omega)
  have minute := readField_padded ⟨Nat.zero_le _, Nat.le_of_lt_succ t.minute_lt⟩
    (by have := t.minute_lt; omega)
  have second := readField_padded ⟨Nat.zero_le _, t.second_le⟩ (by have := t.second_le; omega)
  simp only [toChars, List.append_assoc, List.cons_append]
  have hyphen : Text.isBlank '-' = false := by decide
  have colon : Text.isBlank ':' = false := by decide
  have letter : Text.isBlank 'T' = false := by decide
  simp only [ofChars, readYear_yearChars t.year_mem, ok_bind, readMark_cons hyphen,
    readMark_cons colon, readMark_cons letter, month, day, hour, minute, second,
    readFraction_fractionChars t.nanosecond_lt]
  exact t.ofFields_eq_ok

/-! ## The characters of the text form -/

/-- The characters that date-times are written with. -/
def isPlain (c : Char) : Bool := c.isDigit || c ∈ ['-', '+', 'T', ':', '.']

theorem all_isPlain_padded (width n : Nat) : (padded width n).all isPlain = true := by
  rw [List.all_eq_true]
  intro c member
  rw [isPlain, isDigit_of_mem_padded c member, Bool.true_or]

theorem all_isPlain_toChars (t : DateTime) : t.toChars.all isPlain = true := by
  have hyphen : isPlain '-' = true := by decide
  have plus : isPlain '+' = true := by decide
  have letter : isPlain 'T' = true := by decide
  have colon : isPlain ':' = true := by decide
  have point : isPlain '.' = true := by decide
  have year : (yearChars t.year).all isPlain = true := by
    unfold yearChars
    split
    · simp only [List.all_cons, hyphen, all_isPlain_padded, Bool.and_self]
    · split
      · exact all_isPlain_padded _ _
      · simp only [List.all_cons, plus, all_isPlain_padded, Bool.and_self]
  have fraction : (fractionChars t.nanosecond).all isPlain = true := by
    unfold fractionChars
    split
    · rfl
    · split
      · simp only [List.all_cons, point, all_isPlain_padded, Bool.and_self]
      · split <;> simp only [List.all_cons, point, all_isPlain_padded, Bool.and_self]
  simp only [toChars, List.all_append, List.all_cons, hyphen, letter, colon, all_isPlain_padded,
    year, fraction, Bool.and_self]

/-- A character that needs an escape in a string does not occur, and neither does the escape. -/
theorem ne_of_mem_toChars {t : DateTime} {c d : Char} (notPlain : isPlain d = false)
    (member : c ∈ t.toChars) : c ≠ d := by
  rintro rfl
  rw [List.all_eq_true.mp t.all_isPlain_toChars c member] at notPlain
  cases notPlain

end DateTime
end CellCheck
