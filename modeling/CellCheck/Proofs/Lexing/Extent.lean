import CellCheck.Proofs.Lexing.Requests
import CellCheck.Proofs.Lexing.Symbols

/-!
# How far a token reaches

A token is read with at most one look at what comes after it, apart from a point after a number,
where it takes two.  So the characters beyond a token can be exchanged: if they are cut off, or if
blanks come in somewhere behind the token, the same token is read with the same characters.  The only
token without an end of its own is a string without its closing quote, which takes up all that
follows.  Without it, a text keeps its tokens when another one is put behind it, as long as the other
one is `Detached`.

A token also knows how many characters it takes up, because its own text can be recovered from it.
-/

namespace CellCheck
namespace Token

/-- Characters that begin with a blank, if there are any. -/
def BlankFirst (rest : List Char) : Prop := ∀ c, rest.head? = some c → Text.isBlank c = true

theorem blankFirst_nil : BlankFirst [] := by simp [BlankFirst]

theorem blankFirst_append {gap : List Char} (notNil : gap ≠ [])
    (blank : ∀ c ∈ gap, Text.isBlank c = true) (rest : List Char) : BlankFirst (gap ++ rest) := by
  rcases List.exists_cons_of_ne_nil notNil with ⟨c, cs, rfl⟩
  intro d isHead
  cases isHead
  exact blank c List.mem_cons_self

variable {p q tail : List Char}

theorem BlankFirst.endsToken (blankFirst : BlankFirst tail) : EndsToken tail := by
  constructor
  · intro c isHead
    have checked := forall_isBlank (p := fun c => !continuesWord c) (by decide +kernel)
      (blankFirst c isHead)
    rwa [Bool.not_eq_true'] at checked
  · intro c cs isPoint
    have isBlank := blankFirst '.' (by rw [isPoint]; rfl)
    exact absurd isBlank (by decide)

/-- Characters that no token in front of them takes up: they continue neither a word nor a number, and
they do not make a symbol longer. -/
structure Detached (rest : List Char) : Prop extends EndsToken rest where
  noSymbol : ∀ c, rest.head? = some c → c ∉ ['*', '=', '.']

theorem detached_cons {c : Char} (cs : List Char) (noWord : continuesWord c = false)
    (noSymbol : c ∉ ['*', '=', '.']) : Detached (c :: cs) := by
  refine ⟨endsToken_cons cs noWord ?_, ?_⟩
  · rintro rfl
    exact noSymbol (by decide)
  · intro d isHead
    cases isHead
    exact noSymbol

theorem BlankFirst.detached (blankFirst : BlankFirst tail) : Detached tail := by
  refine ⟨blankFirst.endsToken, ?_⟩
  intro c isHead member
  have isBlank := blankFirst c isHead
  simp only [List.mem_cons, List.not_mem_nil, or_false] at member
  rcases member with rfl | rfl | rfl <;> exact absurd isBlank (by decide)

/-! ## What comes after a token

In each statement of this part `p ++ q` are the characters from some place on, the token ends inside
`p`, and `q` is exchanged for `tail`. -/

/-- The next character of a symbol does not turn into one that makes the symbol longer. -/
theorem head?_append_ne {d : Char} (detached : Detached tail) (listed : d ∈ ['*', '=', '.'])
    (different : (p ++ q).head? ≠ some d) : (p ++ tail).head? ≠ some d := by
  cases p with
  | nil =>
    intro isHead
    exact detached.noSymbol d isHead listed
  | cons c cs => exact different

/-- The next character of a symbol stays if the symbol takes it up. -/
theorem head?_append_eq {d : Char} (inside : 2 ≤ p.length + 1) (same : (p ++ q).head? = some d) :
    (p ++ tail).head? = some d := by
  cases p with
  | nil => exact absurd inside (by decide)
  | cons c cs => exact same

theorem takeWhile_append_congr {f : Char → Bool}
    (inside : ((p ++ q).takeWhile f).length ≤ p.length) (ends : tail.takeWhile f = []) :
    (p ++ tail).takeWhile f = (p ++ q).takeWhile f := by
  induction p with
  | nil =>
    rw [List.nil_append, List.length_nil, Nat.le_zero, List.length_eq_zero_iff] at inside
    rw [List.nil_append, List.nil_append, ends, inside]
  | cons c cs ih =>
    rw [List.cons_append, List.cons_append, List.takeWhile_cons, List.takeWhile_cons]
    rw [List.cons_append, List.takeWhile_cons] at inside
    cases inClass : f c with
    | false => rfl
    | true =>
      rw [inClass] at inside
      exact congrArg (c :: ·) (ih (Nat.le_of_succ_le_succ inside))

/-- Blanks do not close a string literal. -/
theorem readQuoted_append_eq_none {cs gap : List Char} (unclosed : readQuoted cs = none)
    (blank : ∀ c ∈ gap, Text.isBlank c = true) : readQuoted (cs ++ gap) = none := by
  rw [Option.eq_none_iff_forall_ne_some]
  intro found read
  have noQuote : '"' ∉ gap := fun member => absurd (blank '"' member) (by decide)
  have closed := (readQuoted_eq_some_iff.mp read).of_append noQuote
  rw [readQuoted_eq_some_iff.mpr closed] at unclosed
  cases unclosed

theorem fraction_append_congr (ends : EndsToken tail)
    (inside : (fraction (p ++ q)).length ≤ p.length) :
    fraction (p ++ tail) = fraction (p ++ q) := by
  match p with
  | [] =>
    have none : fraction q = [] := List.eq_nil_of_length_eq_zero (Nat.le_zero.mp inside)
    rw [List.nil_append, List.nil_append, none, ends.fraction_eq_nil]
  | [x] =>
    have none : fraction ([x] ++ q) = [] := by
      rcases fraction_cases ([x] ++ q) with nothing | ⟨c, rest, _, _, long⟩
      · exact nothing
      · rw [long] at inside
        exact absurd inside (by simp)
    rw [none]
    rcases fraction_cases ([x] ++ tail) with nothing | ⟨c, rest, same, isDigit, _⟩
    · exact nothing
    · -- The dot is the last character, and a digit behind it would belong to the same token.
      rw [List.singleton_append, List.cons.injEq] at same
      have noWord := ends.noWord c (by rw [same.2]; rfl)
      rw [continuesWord_of_isDigit isDigit] at noWord
      cases noWord
  | x :: y :: r =>
    by_cases starts : x = '.' ∧ y.isDigit = true
    · rcases starts with ⟨rfl, isDigit⟩
      simp only [List.cons_append, fraction, if_pos isDigit] at inside ⊢
      exact congrArg (List.cons '.') (takeWhile_append_congr (p := y :: r)
        (Nat.le_of_succ_le_succ inside) ends.takeWhile_isDigit_eq_nil)
    · have none : ∀ rest, fraction (x :: y :: r ++ rest) = [] := by
        intro rest
        rcases fraction_cases (x :: y :: r ++ rest) with nothing | ⟨c, cs, same, isDigit, _⟩
        · exact nothing
        · cases same
          exact absurd ⟨rfl, isDigit⟩ starts
      rw [none, none]

theorem readNumber_append_congr (ends : EndsToken tail)
    (inside : (readNumber (p ++ q)).length ≤ p.length) :
    readNumber (p ++ tail) = readNumber (p ++ q) := by
  rw [readNumber_eq, List.length_append] at inside
  have wholeInside : ((p ++ q).takeWhile Char.isDigit).length ≤ p.length :=
    Nat.le_of_add_right_le inside
  have whole : (p ++ tail).takeWhile Char.isDigit = (p ++ q).takeWhile Char.isDigit :=
    takeWhile_append_congr wholeInside ends.takeWhile_isDigit_eq_nil
  rw [readNumber_eq, readNumber_eq, whole]
  rw [List.drop_append_of_le_length wholeInside] at inside ⊢
  rw [List.drop_append_of_le_length wholeInside]
  refine congrArg _ (fraction_append_congr ends ?_)
  rw [List.length_drop]
  exact Nat.le_sub_of_add_le' inside

/-- What is read does not depend on what comes after it. -/
theorem read_append_congr {c : Char} (detached : Detached tail)
    (inside : (read c (p ++ q)).2 ≤ p.length + 1)
    (closed : (read c (p ++ q)).1 ≠ .unterminatedString) :
    read c (p ++ tail) = read c (p ++ q) := by
  revert inside closed
  fun_cases read c (p ++ q) <;> intro inside closed
  case case3 follows | case6 follows | case8 follows | case10 follows =>
    exact if_pos (head?_append_eq inside follows)
  case case4 different | case7 different | case9 different | case11 different =>
    exact if_neg (head?_append_ne detached (by decide) different)
  case case17 value width quoted =>
    have same : readQuoted (p ++ tail) = some (value, width) := by
      rw [readQuoted_eq_some_iff] at quoted ⊢
      exact quoted.append_congr (Nat.le_of_succ_le_succ inside) tail
    simp only [read, same]
  case case18 => exact absurd rfl closed
  case case19 starts word =>
    have same : (p ++ tail).takeWhile continuesWord = (p ++ q).takeWhile continuesWord :=
      takeWhile_append_congr (Nat.le_of_succ_le_succ inside)
        detached.noWord.takeWhile_eq_nil
    rw [read_of_startsWord starts, same]
  case case20 isDigit number =>
    have same : readNumber (c :: p ++ tail) = readNumber (c :: p ++ q) :=
      readNumber_append_congr detached.toEndsToken inside
    rw [read_of_isDigit isDigit, ← List.cons_append, same]
    rfl
  case case21 notWord notDigit =>
    unfold read
    split
    all_goals first | contradiction | rw [if_neg notWord, if_neg notDigit]
  all_goals rfl

/-- A string without its closing quote takes up all that follows. -/
theorem read_quote_of_unclosed {cs : List Char} (unclosed : readQuoted cs = none) :
    read '"' cs = (.unterminatedString, cs.length + 1) := by
  simp only [read, unclosed]

theorem ofChars_unclosed {cs : List Char} (unclosed : readQuoted cs = none) :
    ofChars ('"' :: cs) = [.unterminatedString] := by
  rw [ofChars_of_not_isBlank (by decide), read_quote_of_unclosed unclosed]
  apply congrArg (List.cons _)
  rw [List.drop_succ_cons, List.drop_length, ofChars_nil]

theorem unclosed_of_read {c : Char} {cs : List Char}
    (isUnterminated : (read c cs).1 = .unterminatedString) : c = '"' ∧ readQuoted cs = none := by
  revert isUnterminated
  fun_cases read c cs
  case case18 unclosed => exact fun _ => ⟨rfl, unclosed⟩
  case case19 =>
    exact fun isUnterminated => absurd isUnterminated (ofWord_ne _ (by simp) (by simp))
  all_goals simp

/-- If the text after a token is cut off, the same token is read. -/
theorem exists_read_take (c : Char) (cs : List Char) :
    ∃ n, (read c cs).2 = n + 1 ∧ n ≤ cs.length ∧ read c (cs.take n) = read c cs := by
  rcases Nat.exists_eq_add_of_le' (Lexer.one_le_width c cs) with ⟨n, width⟩
  have inside : n ≤ cs.length := by
    have inText := width_le c cs
    rw [width] at inText
    exact Nat.le_of_succ_le_succ inText
  refine ⟨n, width, inside, ?_⟩
  by_cases closed : (read c cs).1 = .unterminatedString
  · rcases unclosed_of_read closed with ⟨rfl, unclosed⟩
    rw [read_quote_of_unclosed unclosed, Nat.succ.injEq] at width
    rw [← width, List.take_length]
  · have split := List.take_append_drop n cs
    rw [← List.append_nil (cs.take n)]
    apply (read_append_congr blankFirst_nil.detached _ _).trans (congrArg (read c) split)
    · apply Nat.le_of_eq
      rw [split, width, List.length_take, Nat.min_eq_left inside]
    · rwa [split]

/-! ## The text of a token -/

/-- How a token is written, if it has an end. -/
def spelling : Token → List Char
  | identifier name => name.toList
  | number text => text.toList
  | string value => quoted value
  | .symbol s => s.text.toList
  | illegal character => [character]
  | unterminatedString | endOfText => []

theorem spelling_ofWord (word : String) : (ofWord word).spelling = word.toList := by
  unfold ofWord
  split
  · next keyword isKeyword =>
    have same := List.find?_some isKeyword
    rw [decide_eq_true_eq] at same
    rw [spelling, same]
  · rfl

/-- The characters of a string literal are its value with the quotes escaped. -/
theorem QuotedAs.take_eq {cs value : List Char} {width : Nat} (quoted : QuotedAs cs value width) :
    cs.take width = escaped value ++ ['"'] := by
  induction quoted with
  | close => rfl
  | escape _ ih =>
    rw [List.take_succ_cons, List.take_succ_cons, ih, escaped_cons, if_pos rfl]
    rfl
  | plain notQuote _ _ ih =>
    rw [List.take_succ_cons, ih, escaped_cons, if_neg notQuote]
    rfl

theorem take_one_of_head? {cs : List Char} {d : Char} (follows : cs.head? = some d) :
    cs.take 1 = [d] := by
  cases cs with
  | nil => cases follows
  | cons e es =>
    cases follows
    rfl

/-- The characters that are read are those with which the token is written. -/
theorem take_width {c : Char} {cs : List Char} (closed : (read c cs).1 ≠ .unterminatedString) :
    (c :: cs).take (read c cs).2 = (read c cs).1.spelling := by
  revert closed
  fun_cases read c cs <;> intro closed
  case case3 follows | case6 follows | case8 follows | case10 follows =>
    exact congrArg (List.cons _) (take_one_of_head? follows)
  case case17 value width quoted =>
    rw [List.take_succ_cons, (readQuoted_eq_some_iff.mp quoted).take_eq, spelling, CellCheck.quoted,
      String.toList_ofList]
    rfl
  case case18 => exact absurd rfl closed
  case case19 word =>
    rw [spelling_ofWord, String.toList_ofList]
    apply congrArg (List.cons c)
    symm
    rw [← List.prefix_iff_eq_take]
    exact List.takeWhile_prefix _
  case case20 number =>
    rw [spelling, String.toList_ofList]
    exact (List.prefix_iff_eq_take.mp (readNumber_isPrefix _)).symm
  all_goals rfl

theorem width_eq_length_spelling {c : Char} {cs : List Char}
    (closed : (read c cs).1 ≠ .unterminatedString) :
    (read c cs).2 = (read c cs).1.spelling.length := by
  rw [← take_width closed, List.length_take, List.length_cons, Nat.min_eq_left (width_le c cs)]

/-- A token with an end that is read alone takes up the same characters in front of others. -/
theorem read_append_of_alone {c : Char} {cs rest : List Char} {token : Token}
    (alone : read c cs = (token, cs.length + 1))
    (sameToken : (read c (cs ++ rest)).1 = token) (closed : token ≠ .unterminatedString) :
    read c (cs ++ rest) = (token, cs.length + 1) := by
  apply Prod.ext sameToken
  have closedAlone : (read c cs).1 ≠ .unterminatedString := by rwa [alone]
  have width := width_eq_length_spelling closedAlone
  rw [alone] at width
  rw [width_eq_length_spelling (by rwa [sameToken]), sameToken]
  exact width.symm

/-- A token with an end stays if blanks come in somewhere behind it. -/
theorem read_of_blankFirst {c : Char} {cs : List Char} {token : Token}
    (reads : read c (cs ++ (p ++ q)) = (token, cs.length + 1)) (closed : token ≠ .unterminatedString)
    (blankFirst : BlankFirst tail) : read c (cs ++ (p ++ tail)) = (token, cs.length + 1) := by
  rw [← List.append_assoc] at reads ⊢
  rw [← reads]
  apply read_append_congr blankFirst.detached
  · rw [reads, List.length_append]
    exact Nat.succ_le_succ (Nat.le_add_right _ _)
  · rwa [reads]

/-- Two texts that stand side by side fall into the tokens of the first and those of the second, if
the second is detached and the first does not end in a string without its closing quote. -/
theorem ofChars_append (detached : Detached tail) {cs : List Char}
    (closed : .unterminatedString ∉ ofChars cs) : ofChars (cs ++ tail) = ofChars cs ++ ofChars tail := by
  induction size : cs.length using Nat.strongRecOn generalizing cs with
  | ind _ ih =>
    cases cs with
    | nil => rw [ofChars_nil, List.nil_append, List.nil_append]
    | cons c cs =>
      rw [List.cons_append]
      cases isBlank : Text.isBlank c with
      | true =>
        rw [ofChars_of_isBlank isBlank] at closed
        rw [ofChars_of_isBlank isBlank, ofChars_of_isBlank isBlank]
        exact ih cs.length (size ▸ Nat.lt_succ_self _) closed rfl
      | false =>
        rw [ofChars_of_not_isBlank isBlank, List.mem_cons, not_or] at closed
        have inside := width_le c cs
        have same : read c (cs ++ tail) = read c cs := by
          have unchanged := read_append_congr (p := cs) (q := []) (c := c) detached
          rw [List.append_nil] at unchanged
          exact unchanged inside (Ne.symm closed.1)
        rw [ofChars_of_not_isBlank isBlank, ofChars_of_not_isBlank isBlank, same, ← List.cons_append,
          List.drop_append_of_le_length inside, List.cons_append]
        refine congrArg _ (ih _ ?_ closed.2 rfl)
        have width := Lexer.one_le_width c cs
        simp only [List.length_drop, ← size, List.length_cons]
        omega

end Token
end CellCheck
