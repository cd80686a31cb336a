import CellCheck.Expr.Printer
import CellCheck.Proofs.Lexing.Tokens

/-!
# Symbols and string literals at the front of a text

A symbol is read as itself unless the next character makes it a longer one, and a string literal in
quotes is read as its value.  Since a backslash is written as it is, a string that ends in one would
swallow its closing quote; this is the only string that is not read back.
-/

namespace CellCheck
namespace Token

/-- Whether what follows a symbol leaves it as it is. -/
def Separates : Symbol → List Char → Prop
  | .true, rest | .false, rest | .and, rest | .or, rest | .not, rest => EndsWord rest
  | .star, rest => rest.head? ≠ some '*'
  | .less, rest | .greater, rest => rest.head? ≠ some '='
  | _, _ => True

theorem ofChars_keyword {s : Symbol} {c : Char} {word : List Char} {rest : List Char}
    (text : s.text.toList = c :: word) (starts : startsWord c = true)
    (continues : ∀ d ∈ word, continuesWord d = true) (isKeyword : keyword? s.text = some s)
    (ends : EndsWord rest) : ofChars (s.text.toList ++ rest) = .symbol s :: ofChars rest := by
  have same : String.ofList (c :: word) = s.text := by rw [← text, String.ofList_toList]
  rw [text, ofChars_word starts continues ends, same, ofWord, isKeyword]

/-- Symbols other than keywords are decided by their first two characters. -/
theorem ofChars_cons {c : Char} (cs : List Char) {rest : List Char} {t : Token}
    (notBlank : Text.isBlank c = false) (reads : read c (cs ++ rest) = (t, cs.length + 1)) :
    ofChars (c :: cs ++ rest) = t :: ofChars rest := by
  rw [List.cons_append, ofChars_of_not_isBlank notBlank, reads]
  simp only [List.drop_succ_cons, List.drop_left]

/-- A symbol in front of something that leaves it as it is. -/
theorem ofChars_symbol (s : Symbol) {rest : List Char} (separates : Separates s rest) :
    ofChars (s.text.toList ++ rest) = .symbol s :: ofChars rest := by
  cases s with
  | true => exact ofChars_keyword rfl (by decide) (List.all_eq_true.mp (by decide +kernel)) rfl separates
  | false => exact ofChars_keyword rfl (by decide) (List.all_eq_true.mp (by decide +kernel)) rfl separates
  | and => exact ofChars_keyword rfl (by decide) (List.all_eq_true.mp (by decide +kernel)) rfl separates
  | or => exact ofChars_keyword rfl (by decide) (List.all_eq_true.mp (by decide +kernel)) rfl separates
  | not => exact ofChars_keyword rfl (by decide) (List.all_eq_true.mp (by decide +kernel)) rfl separates
  | star => exact ofChars_cons [] (by decide) (if_neg separates)
  | less => exact ofChars_cons [] (by decide) (if_neg separates)
  | greater => exact ofChars_cons [] (by decide) (if_neg separates)
  | starStar => exact ofChars_cons ['*'] (by decide) rfl
  | lessEqual => exact ofChars_cons ['='] (by decide) rfl
  | greaterEqual => exact ofChars_cons ['='] (by decide) rfl
  | dots => exact ofChars_cons ['.'] (by decide) rfl
  | plus | minus | slash | leftParen | rightParen | leftBracket | rightBracket | comma =>
    exact ofChars_cons [] (by decide) rfl

/-! ## String literals -/

def escaped (value : List Char) : List Char :=
  value.flatMap fun c => if c = '"' then ['\\', '"'] else [c]

theorem escaped_cons (c : Char) (value : List Char) :
    escaped (c :: value) = (if c = '"' then ['\\', '"'] else [c]) ++ escaped value := by
  rw [escaped, List.flatMap_cons]
  rfl

theorem escaped_eq_self {value : List Char} (noQuote : ∀ c ∈ value, c ≠ '"') :
    escaped value = value := by
  induction value with
  | nil => rfl
  | cons c value ih =>
    rw [escaped_cons, if_neg (noQuote c List.mem_cons_self), ih fun d member =>
      noQuote d (List.mem_cons_of_mem _ member), List.singleton_append]

theorem head?_escaped_ne (value : List Char) : (escaped value).head? ≠ some '"' := by
  cases value with
  | nil => simp [escaped]
  | cons c value =>
    rw [escaped_cons]
    split
    · simp
    · next different => simpa using different

/-- A written string is read back, unless it ends in a backslash. -/
theorem quotedAs_escaped (value : List Char) (closed : value.getLast? ≠ some '\\')
    (rest : List Char) :
    QuotedAs (escaped value ++ '"' :: rest) value ((escaped value).length + 1) := by
  induction value with
  | nil => exact .close rest
  | cons c value ih =>
    have closedRest : value.getLast? ≠ some '\\' := by
      cases value with
      | nil => simp
      | cons d value => rwa [List.getLast?_cons_cons] at closed
    have ih := ih closedRest
    rw [escaped_cons]
    by_cases isQuote : c = '"'
    · rw [if_pos isQuote, isQuote]
      exact .escape ih
    · rw [if_neg isQuote]
      refine .plain isQuote ?_ ih
      -- A backslash in front of a quote: the quote is not the escaped rest's, so the string ends
      -- here, in a backslash.
      intro isBackslash isHead
      cases value with
      | nil => exact closed (by rw [isBackslash]; rfl)
      | cons d value =>
        have head := head?_escaped_ne (d :: value)
        have notNil : escaped (d :: value) ≠ [] := by
          rw [escaped_cons]
          split <;> simp
        rcases List.exists_cons_of_ne_nil notNil with ⟨x, xs, same⟩
        rw [same] at head isHead
        exact head isHead

/-- A string in quotes is one token, unless it ends in a backslash. -/
theorem ofChars_quoted (value : String) (closed : value.toList.getLast? ≠ some '\\')
    (rest : List Char) : ofChars (quoted value ++ rest) = .string value :: ofChars rest := by
  have reads := readQuoted_eq_some_iff.mpr (quotedAs_escaped value.toList closed rest)
  have token : read '"' (escaped value.toList ++ ['"'] ++ rest) =
      (.string value, (escaped value.toList ++ ['"']).length + 1) := by
    rw [List.append_assoc, List.singleton_append, read, reads]
    simp
  exact ofChars_cons _ (by decide) token

end Token
end CellCheck
