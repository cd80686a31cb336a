import CellCheck.Proofs.Expr.Alternatives
import CellCheck.Proofs.Lexing.WellFormed
import CellCheck.Proofs.Number.Decimal
import CellCheck.Proofs.Reading.Calls
import CellCheck.Proofs.Reading.Spacing

/-!
# Errors and the tokens they are about

The error of a cell has the text of the cell and an offset in it.  The offset is that of a token, so
it is never that of a blank, and what the error says is said of this token: a token that cannot stand
there is the one that stands there, and the mark of the end stands behind the last character.

The parser works without two ways out that a reader of this kind might keep: for a decimal that cannot
be read, and for a list of alternatives that turns out to be empty.  Both would be superfluous.  A
number token with a point has digits, so that a reader of decimals accepts it, and the alternatives
are read one by one, beginning with the first.  With these ways out, whatever they would report, the
readers are the same.
-/

namespace CellCheck

open CellCheck.Token (Placed)

/-! ## Decimals that are refused -/

/-- Read decimal digits with at most one point among them, and refuse everything else.  A reader that
accepts signs and exponents as well refuses even less. -/
def Decimal.ofChars? (cs : List Char) : Option Decimal :=
  if cs.all (fun c => c.isDigit || c == '.') && cs.any Char.isDigit && cs.count '.' ≤ 1 then
    some (ofChars cs)
  else none

theorem Decimal.ofChars?_of_isNumber {cs : List Char} (isNumber : Token.IsNumber cs) :
    ofChars? cs = some (ofChars cs) := by
  rw [ofChars?]
  apply if_pos
  suffices (∀ c ∈ cs, c.isDigit = true ∨ c = '.') ∧ (∃ c ∈ cs, c.isDigit = true) ∧
      cs.count '.' ≤ 1 by
    simpa [and_assoc] using this
  cases isNumber with
  | whole isDigits =>
    have noPoint := List.count_eq_zero.mpr (point_not_mem isDigits)
    refine ⟨fun d member => .inl (isDigits d member), ⟨_, List.mem_cons_self, ?_⟩, ?_⟩
    · exact isDigits _ List.mem_cons_self
    · rw [noPoint]
      exact Nat.zero_le 1
  | @decimal c d whole fraction wholeDigits fractionDigits =>
    have noPoint := List.count_eq_zero.mpr (point_not_mem wholeDigits)
    have noPoint' := List.count_eq_zero.mpr (point_not_mem fractionDigits)
    refine ⟨?_, ⟨c, List.mem_cons_self, wholeDigits c List.mem_cons_self⟩, ?_⟩
    · have allowed : ∀ {cs : List Char}, (∀ x ∈ cs, x.isDigit = true) →
          ∀ x ∈ cs, x.isDigit = true ∨ x = '.' :=
        fun isDigits x member => .inl (isDigits x member)
      exact List.forall_mem_append.mpr
        ⟨allowed wholeDigits, List.forall_mem_cons.mpr ⟨.inr rfl, allowed fractionDigits⟩⟩
    · rw [List.count_append, noPoint, List.count_cons, noPoint']
      rfl

namespace Parser

/-- The literal that a number token with a sign stands for, with something to report if a token with a
point is no decimal. -/
def numberAtomOr (fallback : ParseProblem) (negative : Bool) (text : String) :
    Except ParseProblem Atom :=
  if '.' ∈ text.toList then
    match Decimal.ofChars? text.toList with
    | some d => .ok (.double (Double.ofDecimal negative d))
    | none => .error fallback
  else numberAtom negative text

theorem numberAtomOr_eq (fallback : ParseProblem) (negative : Bool) {text : String}
    (isNumber : Token.IsNumber text.toList) :
    numberAtomOr fallback negative text = numberAtom negative text := by
  by_cases point : '.' ∈ text.toList
  · rw [numberAtomOr, if_pos point, Decimal.ofChars?_of_isNumber isNumber, numberAtom, if_pos point]
  · rw [numberAtomOr, if_neg point]

/-! ## Alternatives that are missing -/

/-- Read one or more alternatives with commas between them, and list them. -/
def alternativeList (ts : List Token) : Step (List Expr) ts :=
  match alternative ts with
  | .error failure => .error failure
  | .ok (head, rest) =>
    match skip? .comma rest.val with
    | none => .ok ([head], rest)
    | some others =>
      match alternativeList others.val with
      | .error failure => .error failure
      | .ok (tail, last) => .ok (head :: tail, rest.trans (others.trans last))
termination_by ts.length
decreasing_by exact Nat.lt_trans others.property rest.property

/-- Read alternatives and put them together, with something to report if there are none. -/
def alternativesOr (fallback : ParseProblem) (ts : List Token) : Step Expr ts :=
  match alternativeList ts with
  | .error failure => .error failure
  | .ok (es, rest) =>
    match Expr.disjunctionOf? es with
    | some e => .ok (e, rest)
    | none => .error (.here fallback rest.val)

theorem ne_nil_of_alternativeList {ts : List Token} {es : List Expr} {rest : Fewer ts}
    (read : alternativeList ts = .ok (es, rest)) : es ≠ [] := by
  rw [alternativeList] at read
  rintro rfl
  split at read
  · cases read
  · split at read
    · cases read
    · split at read <;> cases read

/-- The alternatives are put together as they are read. -/
theorem alternativesOr_eq (fallback : ParseProblem) (ts : List Token) :
    alternativesOr fallback ts = alternatives ts := by
  induction size : ts.length using Nat.strongRecOn generalizing ts with
  | ind _ ih =>
    rw [alternatives_eq_joined, joined.eq_def, alternativesOr, alternativeList]
    cases alternative ts with
    | error failure => rfl
    | ok found =>
      rcases found with ⟨head, rest⟩
      simp only
      cases skip? .comma rest.val with
      | none => rfl
      | some others =>
        have shorter : others.val.length < ts.length := Nat.lt_trans others.property rest.property
        have same := ih _ (size ▸ shorter) others.val rfl
        rw [alternativesOr] at same
        simp only
        rw [← same]
        cases result : alternativeList others.val with
        | error failure => rfl
        | ok found =>
          rcases found with ⟨es, last⟩
          rcases List.exists_cons_of_ne_nil (ne_nil_of_alternativeList result) with ⟨e, es', rfl⟩
          rfl

end Parser

/-! ## Messages -/

theorem append_ne_append_of_take_ne {n : Nat} {front front' : String}
    (long : n ≤ front.toList.length) (long' : n ≤ front'.toList.length)
    (different : front.toList.take n ≠ front'.toList.take n) (rest rest' : String) :
    front ++ rest ≠ front' ++ rest' := by
  intro same
  apply different
  have chars := congrArg String.toList same
  rw [String.toList_append, String.toList_append] at chars
  have firstChars := congrArg (List.take n) chars
  rwa [List.take_append_of_le_length long, List.take_append_of_le_length long'] at firstChars

theorem ne_append_of_take_ne {n : Nat} {text front : String} (long : n ≤ text.toList.length)
    (long' : n ≤ front.toList.length) (different : text.toList.take n ≠ front.toList.take n)
    (rest : String) : text ≠ front ++ rest := by
  have appended := append_ne_append_of_take_ne long long' different "" rest
  rwa [String.append_empty] at appended

namespace ParseProblem

/-- What a problem says about the token at its place. -/
def Concerns : ParseProblem → Token → Prop
  | unexpected found, token => token = found
  | expected _ found, token => token = found
  | unterminatedString, token => token = .unterminatedString
  | boundNotAtom, _ => True
  | integerOutOfRange digits, token =>
    ∃ negative : Bool, ∃ text, token = .number text ∧
      digits = (if negative then "-" else "") ++ text
  | invalidDate text _, token => token = .string text

/-- No message says that a decimal cannot be read. -/
theorem message_ne_invalid_number (problem : ParseProblem) (rest : String) :
    problem.message ≠ "invalid number " ++ rest := by
  unfold message
  cases problem with
  | unterminatedString | boundNotAtom =>
    apply ne_append_of_take_ne (n := 1)
    all_goals decide +kernel
  | unexpected | expected | integerOutOfRange =>
    simp only [String.append_assoc]
    apply append_ne_append_of_take_ne (n := 3)
    all_goals decide +kernel
  | invalidDate =>
    simp only [String.append_assoc]
    apply append_ne_append_of_take_ne (n := 9)
    all_goals decide +kernel

/-- No message says that there is no expression at all. -/
theorem message_ne_expected_expression (problem : ParseProblem) :
    problem.message ≠ "expected an expression" := by
  unfold message
  cases problem with
  | unterminatedString | boundNotAtom => decide
  | unexpected | integerOutOfRange | invalidDate =>
    simp only [String.append_assoc]
    apply Ne.symm
    apply ne_append_of_take_ne (n := 2)
    all_goals decide +kernel
  | expected wanted found =>
    -- What is wanted is a symbol in quotes or begins with an article, which is never this one.
    have begins : 11 ≤ ("expected " ++ wanted.describe).toList.length ∧
        "expected an expression".toList.take 11 ≠
          ("expected " ++ wanted.describe).toList.take 11 := by
      cases wanted with
      | symbol s => cases s <;> decide +kernel
      | _ => decide +kernel
    change "expected " ++ wanted.describe ++ ", found " ++ found.describe ≠ _
    rw [String.append_assoc]
    exact (ne_append_of_take_ne (by decide +kernel) begins.1 begins.2 _).symm

end ParseProblem

/-- Each failure is anchored at a token among those that are read, and says something true of it. -/
theorem ParseFailure.Among.concerns {ts : List Token} {failure : ParseFailure}
    (among : failure.Among ts) :
    failure.anchor <:+ ts ∧ failure.problem.Concerns (tokenAt failure.anchor) := by
  cases among with
  | unexpected inside => exact ⟨inside, rfl⟩
  | expected wanted inside => exact ⟨inside, rfl⟩
  | unterminated inside => exact ⟨inside, rfl⟩
  | @outOfRange negative text _ inside => exact ⟨inside, negative, text, rfl, rfl⟩
  | invalidDate inside => exact ⟨inside, rfl⟩
  | bound inside => exact ⟨inside, trivial⟩

/-! ## Errors -/

namespace Cell

/-- What is true of an error of a text: it is about a token, and stands where this token does. -/
structure Anchored (text : String) (error : ParseError) : Prop where
  sameText : error.text = text
  isOffset : ∃ place ∈ tokenize text, place.offset = error.position
  concerns : ∀ place ∈ tokenize text, place.offset = error.position →
    error.problem.Concerns place.token
  inside : error.position ≤ text.length
  notBlank : error.position = text.length ∨
    ∃ c, text.toList[error.position]? = some c ∧ Text.isBlank c = false
  /-- Alternatives are never missing. -/
  expression : error.problem.message ≠ "expected an expression"
  /-- Every number can be read. -/
  numbers : ∀ number, error.problem.message ≠ "invalid number " ++ number

theorem getElem?_of_suffix {ts bare : List Token} (suffix : ts <:+ bare) :
    (bare ++ [.endOfText])[bare.length - ts.length]? = some (ParseFailure.tokenAt ts) := by
  rcases suffix with ⟨front, rfl⟩
  rw [List.length_append, Nat.add_sub_cancel, List.append_assoc,
    List.getElem?_append_right (Nat.le_refl _), Nat.sub_self]
  cases ts <;> rfl

/-- An error of a cell comes from a failure among its tokens. -/
theorem exists_failure_of_parse_eq_error {text : String} {error : ParseError}
    (failed : parse text = .error error) :
    ∃ failure : ParseFailure, failure.Among (Session.ofText text).bare ∧
      error = ⟨text, failure.problem,
        (Session.ofText text).offset ((Session.ofText text).before failure.anchor)⟩ := by
  cases isBlank : (Session.ofText text).isBlank with
  | true =>
    rw [parse, Session.parse_of_isBlank isBlank] at failed
    cases failed
  | false =>
    rcases Session.parse_cases isBlank with ⟨e, _, parsed⟩ | ⟨failure, among, parsed⟩
    · rw [parse, parsed] at failed
      cases failed
    · rw [parse, parsed] at failed
      cases failed
      exact ⟨failure, among, rfl⟩

/-- The anchor of a failure has the offset of a token that the failure is about. -/
theorem Session.exists_place_of_among {text : String} {failure : ParseFailure}
    (among : failure.Among (ofText text).bare) :
    ∃ place ∈ tokenize text,
      place.offset = (ofText text).offset ((ofText text).before failure.anchor) ∧
      failure.problem.Concerns place.token := by
  rcases among.concerns with ⟨suffix, concerns⟩
  have index : (ofText text).before failure.anchor =
      (ofText text).bare.length - failure.anchor.length := by
    rw [before, bare, List.length_map]
  have tokens : (tokenize text).map Placed.token = (ofText text).bare ++ [.endOfText] :=
    Lexer.map_token_tokenize text
  have atAnchor := getElem?_of_suffix suffix
  rcases exists_getElem?_tokenize text (Nat.sub_le _ failure.anchor.length) with
    ⟨place, isPlace, offset⟩
  rw [← tokens, ← index, List.getElem?_map, before, isPlace, Option.map_some, Option.some.injEq]
    at atAnchor
  refine ⟨place, List.mem_of_getElem? isPlace, offset, ?_⟩
  rwa [atAnchor]

/-- **Every error is about the token at its position.**  It has the text of the cell and the offset of
one of its tokens, where no blank stands, and a token that it names is the one there.  The two messages
for what cannot happen are never used, and the readers would be the same with them. -/
theorem anchored_of_parse_eq_error (text : String) :
    (∀ error, parse text = .error error → Anchored text error) ∧
    ∀ fallback : ParseProblem,
      (∀ negative number, Token.number number ∈ (tokenize text).map Placed.token →
        Parser.numberAtomOr fallback negative number = Parser.numberAtom negative number) ∧
      ∀ ts, Parser.alternativesOr fallback ts = Parser.alternatives ts := by
  constructor
  · intro error failed
    rcases exists_failure_of_parse_eq_error failed with ⟨failure, among, rfl⟩
    rcases Session.exists_place_of_among among with ⟨place, member, offset, concerns⟩
    rcases Layout.exists_of text with ⟨layout, isOf⟩
    rw [← offset]
    have stands : place.offset ≤ text.length ∧ (place.offset = text.length ∨
        ∃ c, text.toList[place.offset]? = some c ∧ Text.isBlank c = false) := by
      rcases isOf.char_or_mark member with ⟨_, c, isChar, notBlank⟩ | rfl
      · exact ⟨Nat.le_of_lt (Layout.offset_lt isChar), .inr ⟨c, isChar, notBlank⟩⟩
      · exact ⟨Nat.le_refl _, .inl rfl⟩
    refine ⟨rfl, ⟨place, member, rfl⟩, ?_, stands.1, stands.2,
      failure.problem.message_ne_expected_expression, failure.problem.message_ne_invalid_number⟩
    intro other member' same
    rwa [isOf.eq_of_offset_eq member' member same]
  · intro fallback
    refine ⟨fun negative number member => ?_, Parser.alternativesOr_eq fallback⟩
    rw [Lexer.map_token_tokenize, List.mem_append, List.mem_singleton] at member
    rcases member with member | impossible
    · exact Parser.numberAtomOr_eq fallback negative (Token.isNumber_of_mem_ofChars member)
    · cases impossible

/-- A closing parenthesis behind a name is refused at its own offset and not at that of the blank in
front of it. -/
theorem anchored_closing_parenthesis :
    parse "x )" = .error ⟨"x )", .unexpected (.symbol .rightParen), 2⟩ ∧
      Anchored "x )" ⟨"x )", .unexpected (.symbol .rightParen), 2⟩ := by
  have notBlank : (Session.ofText "x )").isBlank = false := by decide +kernel
  have left : (Session.ofText "x )").bare.drop (Session.ofText "x )").cursor =
      [.identifier "x"] ++ [.symbol .rightParen] := by decide +kernel
  have offset : (Session.ofText "x )").offset
      ((Session.ofText "x )").before [.symbol .rightParen]) = 2 := by decide +kernel
  have operand : Grammar.Derives (.operation .multiplicative) [.identifier "x"]
      (.atom (.variable "x")) := .operand (.base (.atom (.name "x")))
  have follows := Grammar.follows_symbol (p := .alternatives) .rightParen [] (by decide) (by decide)
    (by decide)
  have parsed := Session.parse_of_follows notBlank left
    (.single (.value (.operand (.operand (.operand operand))))) follows
  rw [offset] at parsed
  have failed : parse "x )" = .error ⟨"x )", .unexpected (.symbol .rightParen), 2⟩ :=
    congrArg Prod.fst parsed
  exact ⟨failed, (anchored_of_parse_eq_error "x )").1 _ failed⟩

end Cell
end CellCheck
