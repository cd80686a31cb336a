import CellCheck.Cell
import CellCheck.Proofs.Lexing.Literals

/-!
# Tokens one after the other

The tokens of a text do not depend on where the text stands, so they are a function of its
characters alone.  The statements here take the first token off a text.  A token needs something
after it that does not belong to it: `EndsToken` describes the characters after which neither a word
nor a number goes on, and for the symbols that are the start of a longer one it is enough to know
the next character.
-/

namespace CellCheck
namespace Lexer

open Token (Placed)

theorem tokens_of_isBlank {c : Char} (isBlank : Text.isBlank c = true) (n : Nat) (cs : List Char) :
    tokens ⟨n, c :: cs⟩ = tokens ⟨n + 1, cs⟩ := by
  have sameStart : skipBlanks ⟨n, c :: cs⟩ = skipBlanks ⟨n + 1, cs⟩ := by
    simp only [skipBlanks, advance, List.takeWhile_cons, isBlank, if_true, List.length_cons,
      List.drop_succ_cons]
    congr 1
    omega
  have sameNext : next? ⟨n, c :: cs⟩ = next? ⟨n + 1, cs⟩ := by
    simp only [next?, sameStart]
  rw [tokens.eq_def, tokens.eq_def ⟨n + 1, cs⟩, sameNext]

theorem next?_of_not_isBlank {c : Char} (notBlank : Text.isBlank c = false) (n : Nat)
    (cs : List Char) :
    next? ⟨n, c :: cs⟩ = some (⟨(Token.read c cs).1, n⟩,
      ⟨n + (Token.read c cs).2, (c :: cs).drop (Token.read c cs).2⟩) := by
  have start : skipBlanks ⟨n, c :: cs⟩ = ⟨n, c :: cs⟩ := by
    simp [skipBlanks, advance, notBlank]
  simp only [next?, start, advance]

theorem tokens_of_not_isBlank {c : Char} (notBlank : Text.isBlank c = false) (n : Nat)
    (cs : List Char) :
    tokens ⟨n, c :: cs⟩ =
      ⟨(Token.read c cs).1, n⟩ ::
        tokens ⟨n + (Token.read c cs).2, (c :: cs).drop (Token.read c cs).2⟩ := by
  rw [tokens.eq_def, next?_of_not_isBlank notBlank]

theorem tokens_nil (n : Nat) : tokens ⟨n, []⟩ = [] := by
  rw [tokens.eq_def]
  rfl

/-- The tokens themselves do not depend on the offset at which a text stands. -/
theorem tokens_map_token (m n : Nat) (cs : List Char) :
    (tokens ⟨m, cs⟩).map Placed.token = (tokens ⟨n, cs⟩).map Placed.token := by
  induction size : cs.length using Nat.strongRecOn generalizing m n cs with
  | ind _ ih =>
    cases cs with
    | nil => rw [tokens_nil, tokens_nil]
    | cons c cs =>
      cases isBlank : Text.isBlank c with
      | true =>
        rw [tokens_of_isBlank isBlank, tokens_of_isBlank isBlank]
        exact ih cs.length (size ▸ Nat.lt_succ_self _) _ _ _ rfl
      | false =>
        rw [tokens_of_not_isBlank isBlank, tokens_of_not_isBlank isBlank, List.map_cons,
          List.map_cons]
        refine congrArg _ (ih _ ?_ _ _ _ rfl)
        have width := one_le_width c cs
        simp only [List.length_drop, ← size, List.length_cons]
        omega

end Lexer

namespace Token

/-- The tokens of some characters, without their places. -/
def ofChars (cs : List Char) : List Token := (Lexer.tokens ⟨0, cs⟩).map Placed.token

theorem ofChars_nil : ofChars [] = [] := by
  rw [ofChars, Lexer.tokens_nil]
  rfl

theorem ofChars_of_isBlank {c : Char} (isBlank : Text.isBlank c = true) (cs : List Char) :
    ofChars (c :: cs) = ofChars cs := by
  rw [ofChars, Lexer.tokens_of_isBlank isBlank]
  exact Lexer.tokens_map_token _ _ _

theorem ofChars_of_not_isBlank {c : Char} (notBlank : Text.isBlank c = false) (cs : List Char) :
    ofChars (c :: cs) = (read c cs).1 :: ofChars ((c :: cs).drop (read c cs).2) := by
  rw [ofChars, Lexer.tokens_of_not_isBlank notBlank, List.map_cons]
  exact congrArg _ (Lexer.tokens_map_token _ _ _)

theorem bare_ofText (text : String) : (Cell.Session.ofText text).bare = ofChars text.toList := rfl

/-! ## Where a token ends -/

/-- Characters that do not continue a word before them. -/
def EndsWord (rest : List Char) : Prop := ∀ c, rest.head? = some c → continuesWord c = false

/-- Characters that continue neither a word nor a number before them. -/
structure EndsToken (rest : List Char) : Prop where
  noWord : EndsWord rest
  noFraction : ∀ c cs, rest = '.' :: c :: cs → c.isDigit = false

theorem endsWord_cons {c : Char} (cs : List Char) (noWord : continuesWord c = false) :
    EndsWord (c :: cs) := by
  intro d isHead
  cases isHead
  exact noWord

theorem endsToken_nil : EndsToken [] := ⟨by simp [EndsWord], by simp⟩

/-- Characters that are no part of a word and not a point end every token. -/
theorem endsToken_cons {c : Char} (cs : List Char) (noWord : continuesWord c = false)
    (noPoint : c ≠ '.') : EndsToken (c :: cs) := by
  refine ⟨endsWord_cons cs noWord, ?_⟩
  intro d ds same
  exact absurd (List.cons.inj same).1 noPoint

/-- Two points end every token: they are the dots of a range. -/
theorem endsToken_dots (cs : List Char) : EndsToken ('.' :: '.' :: cs) := by
  refine ⟨endsWord_cons _ (by decide), ?_⟩
  intro d ds same
  cases same
  decide

theorem EndsWord.takeWhile_eq_nil {rest : List Char} (ends : EndsWord rest) :
    rest.takeWhile continuesWord = [] := by
  cases rest with
  | nil => rfl
  | cons c cs => rw [List.takeWhile_cons, ends c rfl, if_neg Bool.false_ne_true]

theorem EndsToken.takeWhile_isDigit_eq_nil {rest : List Char} (ends : EndsToken rest) :
    rest.takeWhile Char.isDigit = [] := by
  cases rest with
  | nil => rfl
  | cons c cs =>
    rw [List.takeWhile_cons, if_neg]
    intro isDigit
    have noWord := ends.noWord c rfl
    rw [continuesWord_of_isDigit isDigit] at noWord
    cases noWord

theorem EndsToken.fraction_eq_nil {rest : List Char} (ends : EndsToken rest) :
    fraction rest = [] := by
  rcases fraction_cases rest with nothing | ⟨c, cs, isPoint, isDigit, _⟩
  · exact nothing
  · rw [ends.noFraction c cs isPoint] at isDigit
    cases isDigit

/-! ## Words -/

theorem read_of_startsWord {c : Char} (starts : startsWord c = true) (cs : List Char) :
    read c cs =
      (ofWord (String.ofList (c :: cs.takeWhile continuesWord)),
        (c :: cs.takeWhile continuesWord).length) := by
  unfold read
  split <;> first | exact absurd starts (by decide) | rw [if_pos starts]

/-- A word in front of something that does not continue it is an identifier or a keyword. -/
theorem ofChars_word {c : Char} {word rest : List Char} (starts : startsWord c = true)
    (continues : ∀ d ∈ word, continuesWord d = true) (ends : EndsWord rest) :
    ofChars (c :: word ++ rest) = ofWord (String.ofList (c :: word)) :: ofChars rest := by
  have whole : (word ++ rest).takeWhile continuesWord = word :=
    takeWhile_append_eq_left continues ends.takeWhile_eq_nil
  rw [List.cons_append, ofChars_of_not_isBlank (isBlank_eq_false_of_startsWord starts),
    read_of_startsWord starts, whole]
  simp

/-! ## Numbers -/

theorem read_of_isDigit {c : Char} (isDigit : c.isDigit = true) (cs : List Char) :
    read c cs =
      (.number (String.ofList (readNumber (c :: cs))), (readNumber (c :: cs)).length) := by
  unfold read
  split <;> first
    | exact absurd isDigit (by decide)
    | rw [startsWord_eq_false_of_isDigit isDigit, if_neg Bool.false_ne_true, if_pos isDigit]

/-- The text of a number token: digits, or digits on both sides of a point. -/
inductive IsNumber : List Char → Prop
  | whole {c : Char} {digits : List Char} (isDigits : ∀ d ∈ c :: digits, d.isDigit = true) :
      IsNumber (c :: digits)
  | decimal {c d : Char} {whole fraction : List Char}
      (wholeDigits : ∀ x ∈ c :: whole, x.isDigit = true)
      (fractionDigits : ∀ x ∈ d :: fraction, x.isDigit = true) :
      IsNumber (c :: whole ++ '.' :: d :: fraction)

theorem readNumber_whole {digits rest : List Char} (isDigits : ∀ d ∈ digits, d.isDigit = true)
    (ends : EndsToken rest) : readNumber (digits ++ rest) = digits := by
  have taken : (digits ++ rest).takeWhile Char.isDigit = digits :=
    takeWhile_append_eq_left isDigits ends.takeWhile_isDigit_eq_nil
  rw [readNumber_eq, taken, List.drop_left, ends.fraction_eq_nil, List.append_nil]

theorem readNumber_decimal {whole fraction rest : List Char} {d : Char}
    (wholeDigits : ∀ x ∈ whole, x.isDigit = true)
    (fractionDigits : ∀ x ∈ d :: fraction, x.isDigit = true) (ends : EndsToken rest) :
    readNumber (whole ++ '.' :: d :: fraction ++ rest) = whole ++ '.' :: d :: fraction := by
  have taken : (whole ++ '.' :: d :: fraction ++ rest).takeWhile Char.isDigit = whole := by
    rw [List.append_assoc]
    exact takeWhile_append_eq_left wholeDigits rfl
  have after : (whole ++ '.' :: d :: fraction ++ rest).drop whole.length =
      '.' :: d :: (fraction ++ rest) := by
    rw [List.append_assoc, List.drop_left]
    rfl
  have takenFraction : (d :: (fraction ++ rest)).takeWhile Char.isDigit = d :: fraction :=
    takeWhile_append_eq_left fractionDigits ends.takeWhile_isDigit_eq_nil
  rw [readNumber_eq, taken, after, Token.fraction, if_pos (fractionDigits d List.mem_cons_self),
    takenFraction]

theorem readNumber_append {number rest : List Char} (isNumber : IsNumber number)
    (ends : EndsToken rest) : readNumber (number ++ rest) = number := by
  cases isNumber with
  | whole isDigits => exact readNumber_whole isDigits ends
  | decimal wholeDigits fractionDigits => exact readNumber_decimal wholeDigits fractionDigits ends

/-- A number in front of something that does not continue it is one token. -/
theorem tokens_number {number rest : List Char} (isNumber : IsNumber number)
    (ends : EndsToken rest) (n : Nat) :
    Lexer.tokens ⟨n, number ++ rest⟩ =
      ⟨.number (String.ofList number), n⟩ :: Lexer.tokens ⟨n + number.length, rest⟩ := by
  have read := readNumber_append isNumber ends
  have digitFirst : ∃ c cs, number = c :: cs ∧ c.isDigit = true := by
    cases isNumber with
    | whole isDigits => exact ⟨_, _, rfl, isDigits _ List.mem_cons_self⟩
    | decimal wholeDigits => exact ⟨_, _, rfl, wholeDigits _ List.mem_cons_self⟩
  rcases digitFirst with ⟨c, cs, rfl, isDigit⟩
  rw [List.cons_append] at read ⊢
  rw [Lexer.tokens_of_not_isBlank (isBlank_eq_false_of_isDigit isDigit), read_of_isDigit isDigit,
    read, ← List.cons_append, List.drop_left]

theorem ofChars_number {number rest : List Char} (isNumber : IsNumber number)
    (ends : EndsToken rest) :
    ofChars (number ++ rest) = .number (String.ofList number) :: ofChars rest := by
  rw [ofChars, tokens_number isNumber ends, List.map_cons]
  exact congrArg _ (Lexer.tokens_map_token _ _ _)

end Token
end CellCheck
