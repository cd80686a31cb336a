import CellCheck.Proofs.Reading.Calls
import CellCheck.Proofs.Reading.Refusals

/-!
# Integers at the ends of their range

The digits of a cell may be as many as they like, and an integer has sixty-four bits.  Nothing wraps:
digits are read as the integer with their value, or they are refused where they stand.  Which of the
two it is depends on the sign, since there is one more integer below zero than above.

A minus sign is the sign of the digits behind it only where a value begins.  Behind a value it is an
operator, and the digits behind it have no sign, or another one.  So the greatest size that can be
read is that of the least integer in `-9223372036854775808` and in `0--9223372036854775808`, and one
less in `0-9223372036854775807`.
-/

namespace CellCheck

open CellCheck.Token (Placed)

/-! ## Signed digits -/

namespace Grammar

variable {negative : Bool} {digits : String}

theorem derives_signed (isDigits : ∀ c ∈ digits.toList, c.isDigit = true)
    (fits : Integer.Fits negative (Nat.ofDigitChars 10 digits.toList 0)) :
    ∃ n : Int64,
      n.toInt = (if negative then -1 else 1) * (Nat.ofDigitChars 10 digits.toList 0 : Int) ∧
      Derives .primary (signTokens negative ++ [.number digits]) (.atom (.integer n)) := by
  rcases Integer.fits_iff.mp fits with ⟨n, exact⟩
  have reads : NumberValue negative digits (.integer n) :=
    .integer n (Decimal.point_not_mem isDigits) exact
  exact ⟨n, exact, .atom (derivesAtom_signed reads)⟩

/-- Digits that do not fit are refused with their sign, and at the digits. -/
theorem refuses_signed (isDigits : ∀ c ∈ digits.toList, c.isDigit = true)
    (tooLarge : ¬ Integer.Fits negative (Nat.ofDigitChars 10 digits.toList 0)) :
    Refuses .primary (signTokens negative ++ [.number digits])
      (.here (.integerOutOfRange ((if negative then "-" else "") ++ digits)) [.number digits]) := by
  have noAtom : Parser.numberAtom negative digits =
      .error (.integerOutOfRange ((if negative then "-" else "") ++ digits)) := by
    simp only [Parser.numberAtom, if_neg (Decimal.point_not_mem isDigits),
      Integer.ofDigits?_eq_none tooLarge]
  have noNumber : Parser.number negative digits [] =
      .error (.here (.integerOutOfRange ((if negative then "-" else "") ++ digits))
        [.number digits]) := by
    rw [Parser.number, noAtom]
  cases negative with
  | true =>
    -- The sign belongs to the text that is refused, but the failure stays with the digits.
    apply Refuses.primary (by simp [signTokens])
    change (Parser.number true digits []).after (.symbol .minus) = _
    rw [noNumber]
    rfl
  | false =>
    exact Refuses.primary (by simp [signTokens]) noNumber

end Grammar

/-! ## Digits and minus signs in a text -/

namespace Token

theorem tokens_minus (n : Nat) (cs : List Char) :
    Lexer.tokens ⟨n, '-' :: cs⟩ = ⟨.symbol .minus, n⟩ :: Lexer.tokens ⟨n + 1, cs⟩ :=
  Lexer.tokens_of_not_isBlank (by decide) n cs

theorem tokens_zero_minus (cs : List Char) :
    Lexer.tokens ⟨0, '0' :: '-' :: cs⟩ =
      ⟨.number "0", 0⟩ :: ⟨.symbol .minus, 1⟩ :: Lexer.tokens ⟨2, cs⟩ := by
  have isNumber : IsNumber ['0'] := .whole (by simp)
  have ends : EndsToken ('-' :: cs) := endsToken_cons cs (by decide) (by decide)
  have zero := tokens_number isNumber ends 0
  rw [tokens_minus] at zero
  exact zero

theorem tokens_digits {digits : String} (notEmpty : digits ≠ "")
    (isDigits : ∀ c ∈ digits.toList, c.isDigit = true) (n : Nat) :
    Lexer.tokens ⟨n, digits.toList⟩ = [⟨.number digits, n⟩] := by
  have isNumber : IsNumber digits.toList := by
    cases chars : digits.toList with
    | nil => exact absurd (String.toList_eq_nil_iff.mp chars) notEmpty
    | cons c cs => exact .whole (chars ▸ isDigits)
  have read := tokens_number isNumber endsToken_nil n
  rw [List.append_nil, Lexer.tokens_nil, String.ofList_toList] at read
  exact read

end Token

/-! ## Cells that end in an integer -/

namespace Cell

/-- What becomes of a text that ends in an integer: it is read as the tree of the integer with a value,
or refused because of what is written at an offset, if no integer has the value. -/
structure ReadsInteger (text : String) (inRange : Prop) (value : Int) (tree : Int64 → Expr)
    (written : String) (offset : Nat) : Prop where
  read : inRange → ∃ n : Int64, n.toInt = value ∧ parse text = .ok (tree n)
  refused : ¬ inRange → parse text = .error ⟨text, .integerOutOfRange written, offset⟩

/-- A text whose last token is refused is refused at the offset of this token. -/
theorem parse_of_refused_last {text : String} {front : List Placed} {last : Placed}
    {problem : ParseProblem} (tokens : (Session.ofText text).tokens = front ++ [last])
    (noMinus : last.token ≠ .symbol .minus)
    (refused : Parser.complete (Session.ofText text).bare = .error (.here problem [last.token])) :
    parse text = .error ⟨text, problem, last.offset⟩ := by
  -- Without `noMinus` the text could be a lone minus sign, which no parser gets to see.
  have notBlank : (Session.ofText text).isBlank = false := by
    rw [Session.isBlank, Session.bare, tokens, List.map_append, List.map_singleton]
    simp [List.append_eq_singleton_iff, noMinus]
  have place : (Session.ofText text).before [last.token] = front.length := by
    rw [Session.before, tokens, List.length_append, List.length_singleton, List.length_singleton,
      Nat.add_sub_cancel]
  have offset : (Session.ofText text).offset front.length = last.offset := by
    rw [Session.offset, tokens, List.getElem?_concat_length]
  have parsed := Session.parse_of_error notBlank refused
  rw [parse, parsed]
  simp only [ParseFailure.here, place, offset]
  rfl

section Tokens

variable {text digits : String} {front : List Token} {tree : Expr → Expr} {offset : Nat}

/-- Digits are exact behind everything that takes a primary as its last operand. -/
theorem readsInteger_of_tokens (negative : Bool) (placed : List Placed)
    (frames : Grammar.Frames front tree)
    (starts : Grammar.StartsValue (front ++ (signTokens negative ++ [.number digits])))
    (isDigits : ∀ c ∈ digits.toList, c.isDigit = true)
    (tokens : (Session.ofText text).tokens = placed ++ [⟨.number digits, offset⟩])
    (isFront : placed.map Placed.token = front ++ signTokens negative) :
    ReadsInteger text (Integer.Fits negative (Nat.ofDigitChars 10 digits.toList 0))
      ((if negative then -1 else 1) * (Nat.ofDigitChars 10 digits.toList 0 : Int))
      (fun n => tree (.atom (.integer n))) ((if negative then "-" else "") ++ digits) offset := by
  have bare : (Session.ofText text).bare = front ++ (signTokens negative ++ [.number digits]) := by
    rw [Session.bare, tokens, List.map_append, isFront, List.map_singleton, List.append_assoc]
  constructor
  · intro fits
    rcases Grammar.derives_signed isDigits fits with ⟨n, exact, primary⟩
    refine ⟨n, exact, ?_⟩
    rw [Grammar.parse_ofText_eq_ok_iff, bare]
    exact .condition (.single (.value (frames.derives primary)))
  · intro tooLarge
    have refused := frames.refuses (Grammar.refuses_signed isDigits tooLarge)
    apply parse_of_refused_last tokens (by simp)
    rw [bare]
    exact refused.complete starts

theorem readsInteger_unsigned (placed : List Placed) (frames : Grammar.Frames front tree)
    (starts : Grammar.StartsValue (front ++ [.number digits]))
    (isDigits : ∀ c ∈ digits.toList, c.isDigit = true)
    (tokens : (Session.ofText text).tokens = placed ++ [⟨.number digits, offset⟩])
    (isFront : placed.map Placed.token = front) :
    ReadsInteger text (Nat.ofDigitChars 10 digits.toList 0 < 2 ^ 63)
      (Nat.ofDigitChars 10 digits.toList 0) (fun n => tree (.atom (.integer n))) digits offset := by
  rw [← List.append_nil front] at isFront
  have read := readsInteger_of_tokens false placed frames starts isDigits tokens isFront
  simp only [Bool.false_eq_true, if_false, Int.one_mul, String.empty_append] at read
  exact read

theorem readsInteger_signed (placed : List Placed) (frames : Grammar.Frames front tree)
    (starts : Grammar.StartsValue (front ++ [.symbol .minus, .number digits]))
    (isDigits : ∀ c ∈ digits.toList, c.isDigit = true)
    (tokens : (Session.ofText text).tokens = placed ++ [⟨.number digits, offset⟩])
    (isFront : placed.map Placed.token = front ++ [.symbol .minus]) :
    ReadsInteger text (Nat.ofDigitChars 10 digits.toList 0 ≤ 2 ^ 63)
      (-Nat.ofDigitChars 10 digits.toList 0) (fun n => tree (.atom (.integer n))) ("-" ++ digits)
      offset := by
  have read := readsInteger_of_tokens true placed frames starts isDigits tokens isFront
  simp only [if_true, Int.neg_one_mul] at read
  exact read

end Tokens

/-! ## The four places of the digits -/

/-- Digits alone, behind a sign and as the last operand of a subtraction are read exactly, or refused
where they stand. -/
theorem readsInteger_digits {digits blanks : String} (notEmpty : digits ≠ "")
    (isDigits : ∀ c ∈ digits.toList, c.isDigit = true)
    (blank : ∀ c ∈ blanks.toList, Text.isBlank c = true) :
    let size := Nat.ofDigitChars 10 digits.toList 0
    let difference := fun n => Expr.binary (.atom (.integer 0)) .sub (.atom (.integer n))
    ReadsInteger digits (size < 2 ^ 63) size (fun n => .atom (.integer n)) digits 0 ∧
      ReadsInteger ("-" ++ blanks ++ digits) (size ≤ 2 ^ 63) (-size) (fun n => .atom (.integer n))
        ("-" ++ digits) (1 + blanks.length) ∧
      ReadsInteger ("0-" ++ digits) (size < 2 ^ 63) size difference digits 2 ∧
      ReadsInteger ("0--" ++ digits) (size ≤ 2 ^ 63) (-size) difference ("-" ++ digits) 3 := by
  intro size difference
  have behindZero : Grammar.Frames [.number "0", .symbol .minus]
      (.binary (.atom (.integer 0)) .sub ·) :=
    Grammar.frames_minus (.atom (.number (.integer 0 (by decide) (by decide))))
  have alone : (Session.ofText digits).tokens = [⟨.number digits, 0⟩] :=
    Token.tokens_digits notEmpty isDigits 0
  have signed : (Session.ofText ("-" ++ blanks ++ digits)).tokens =
      [⟨.symbol .minus, 0⟩, ⟨.number digits, 1 + blanks.length⟩] := by
    have chars : ("-" ++ blanks ++ digits).toList = '-' :: (blanks.toList ++ digits.toList) := by
      simp
    change Lexer.tokens ⟨0, ("-" ++ blanks ++ digits).toList⟩ = _
    rw [chars, Token.tokens_minus, Token.tokens_append_of_isBlank blank,
      Token.tokens_digits notEmpty isDigits, String.length_toList, Nat.zero_add]
  have operand : (Session.ofText ("0-" ++ digits)).tokens =
      [⟨.number "0", 0⟩, ⟨.symbol .minus, 1⟩, ⟨.number digits, 2⟩] := by
    have chars : ("0-" ++ digits).toList = '0' :: '-' :: digits.toList := by simp
    change Lexer.tokens ⟨0, ("0-" ++ digits).toList⟩ = _
    rw [chars, Token.tokens_zero_minus, Token.tokens_digits notEmpty isDigits]
  have signedOperand : (Session.ofText ("0--" ++ digits)).tokens =
      [⟨.number "0", 0⟩, ⟨.symbol .minus, 1⟩, ⟨.symbol .minus, 2⟩, ⟨.number digits, 3⟩] := by
    have chars : ("0--" ++ digits).toList = '0' :: '-' :: '-' :: digits.toList := by simp
    change Lexer.tokens ⟨0, ("0--" ++ digits).toList⟩ = _
    rw [chars, Token.tokens_zero_minus, Token.tokens_minus,
      Token.tokens_digits notEmpty isDigits]
  refine ⟨?alone, ?signed, ?operand, ?signedOperand⟩
  case alone =>
    exact readsInteger_unsigned [] Grammar.frames_nil (Grammar.startsValue_number digits) isDigits
      alone rfl
  case signed =>
    exact readsInteger_signed [_] Grammar.frames_nil Grammar.startsValue_minus isDigits signed rfl
  case operand =>
    exact readsInteger_unsigned [_, _] behindZero (Grammar.startsValue_number "0") isDigits
      operand rfl
  case signedOperand =>
    exact readsInteger_signed [_, _, _] behindZero (Grammar.startsValue_number "0") isDigits
      signedOperand rfl

/-- One more than the greatest integer: there is room for it below zero only. -/
theorem readsInteger_digits_two_pow :
    let digits := "9223372036854775808"
    let outOfRange := ParseProblem.integerOutOfRange digits
    let least := Expr.atom (.integer Int64.minValue)
    (digits ≠ "" ∧ (∀ c ∈ digits.toList, c.isDigit = true) ∧
        ∀ c ∈ " ".toList, Text.isBlank c = true) ∧
      parse digits = .error ⟨digits, outOfRange, 0⟩ ∧
      parse ("-" ++ " " ++ digits) = .ok least ∧
      parse ("0-" ++ digits) = .error ⟨"0-" ++ digits, outOfRange, 2⟩ ∧
      parse ("0--" ++ digits) = .ok (.binary (.atom (.integer 0)) .sub least) := by
  intro digits outOfRange least
  have notEmpty : digits ≠ "" := by decide
  have isDigits : ∀ c ∈ digits.toList, c.isDigit = true :=
    List.all_eq_true.mp (by decide +kernel)
  have blank : ∀ c ∈ " ".toList, Text.isBlank c = true := List.all_eq_true.mp (by decide)
  have size : Nat.ofDigitChars 10 digits.toList 0 = 2 ^ 63 := by decide +kernel
  have tooLarge : ¬ (2 ^ 63 < 2 ^ 63) := Nat.lt_irrefl _
  have isLeast : ∀ n : Int64, n.toInt = -(2 ^ 63 : Nat) → n = Int64.minValue := by
    intro n isMin
    exact Int64.toInt_inj.mp isMin
  have reads := readsInteger_digits notEmpty isDigits blank
  simp only [size] at reads
  rcases reads with ⟨alone, signed, operand, signedOperand⟩
  rcases signed.read (Nat.le_refl _) with ⟨n, isMin, signed⟩
  rcases signedOperand.read (Nat.le_refl _) with ⟨m, isMinToo, signedOperand⟩
  rw [isLeast n isMin] at signed
  rw [isLeast m isMinToo] at signedOperand
  exact ⟨⟨notEmpty, isDigits, blank⟩, alone.refused tooLarge, signed, operand.refused tooLarge,
    signedOperand⟩

end Cell
end CellCheck
