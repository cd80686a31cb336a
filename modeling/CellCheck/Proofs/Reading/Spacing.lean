import CellCheck.Proofs.Lexing.Layout

/-!
# Cells with the same tokens

A cell is read from its tokens.  Its characters come in at two places only: blank cells and lone minus
signs are found by trimming the text, and an error has the offset of a token.  The first makes no
difference because the tokens show as well what is left of a text, and the second is stated here with
the token, given by its number.  So cells with the same tokens are read in the same way, and since
blanks between tokens leave the tokens as they are, they may stand anywhere.
-/

namespace CellCheck

open CellCheck.Token (Placed)

namespace Cell

/-- The same expression, or the same error at the same token, which may have another offset in each
text. -/
inductive SameOutcome (t u : String) : Except ParseError Expr → Except ParseError Expr → Prop
  | read (e : Expr) : SameOutcome t u (.ok e) (.ok e)
  | failed (problem : ParseProblem) {index : Nat} {place place' : Placed}
      (inFirst : (tokenize t)[index]? = some place)
      (inSecond : (tokenize u)[index]? = some place') :
      SameOutcome t u (.error ⟨t, problem, place.offset⟩) (.error ⟨u, problem, place'.offset⟩)

namespace Session

/-- The offset that a session has for the number of a token is that of the token. -/
theorem exists_getElem?_tokenize (text : String) {index : Nat}
    (inside : index ≤ (ofText text).tokens.length) :
    ∃ place, (tokenize text)[index]? = some place ∧ place.offset = (ofText text).offset index := by
  have tokens : tokenize text = (ofText text).tokens ++ [⟨.endOfText, text.length⟩] :=
    Lexer.tokenize_eq text
  rw [tokens, offset]
  rcases Nat.lt_or_eq_of_le inside with isToken | isEnd
  · refine ⟨(ofText text).tokens[index], ?_, ?_⟩
    · rw [List.getElem?_append_left isToken, List.getElem?_eq_getElem isToken]
    · rw [List.getElem?_eq_getElem isToken]
  · refine ⟨⟨.endOfText, text.length⟩, ?_, ?_⟩
    · rw [isEnd, List.getElem?_concat_length]
    · rw [isEnd, List.getElem?_eq_none (Nat.le_refl _)]
      rfl

end Session

/-- Cells with the same tokens are read in the same way. -/
theorem sameOutcome_parse {t u : String}
    (same : (Session.ofText t).bare = (Session.ofText u).bare) :
    SameOutcome t u (parse t) (parse u) := by
  have length : (Session.ofText t).tokens.length = (Session.ofText u).tokens.length := by
    have lengths := congrArg List.length same
    rwa [Session.bare, Session.bare, List.length_map, List.length_map] at lengths
  have before : ∀ rest, (Session.ofText t).before rest = (Session.ofText u).before rest := by
    intro rest
    rw [Session.before, Session.before, length]
  have start : ∀ text, (Session.ofText text).cursor = 0 := fun _ => rfl
  rw [parse, parse, Session.parse, Session.parse, Session.isBlank, Session.isBlank, same, start,
    start]
  split
  · exact .read _
  · split
    · exact .read _
    · next failure _ =>
      have inside : (Session.ofText t).before failure.anchor ≤ (Session.ofText t).tokens.length :=
        Nat.sub_le _ _
      rcases Session.exists_getElem?_tokenize t inside with ⟨place, isPlace, offset⟩
      rw [before, length] at inside
      rcases Session.exists_getElem?_tokenize u inside with ⟨place', isPlace', offset'⟩
      rw [before] at isPlace
      show SameOutcome t u (.error ⟨t, failure.problem, _⟩) (.error ⟨u, failure.problem, _⟩)
      rw [← offset, ← offset']
      exact .failed failure.problem isPlace isPlace'

theorem unconditional_congr {t u : String}
    (same : (Session.ofText t).bare = (Session.ofText u).bare) :
    Unconditional t ↔ Unconditional u := by
  rw [← Session.isBlank_ofText_iff, ← Session.isBlank_ofText_iff, Session.isBlank, Session.isBlank,
    same]

/-- **The layout of a cell does not matter.**  Cells with the same tokens are both without a condition
or not, and they are read as the same expression or refused for the same reason at the same token.
Every text has gaps between its tokens, and blanks in their place give a text with the same tokens. -/
theorem sameOutcome_and_map_token_of_respaced :
    (∀ t u : String, (tokenize t).map Placed.token = (tokenize u).map Placed.token →
      (Unconditional t ↔ Unconditional u) ∧ SameOutcome t u (parse t) (parse u)) ∧
    ∀ text : String, (∃ layout : Layout, layout.Of text) ∧
      ∀ layout layout' : Layout, layout.Of text → layout.Respaced layout' →
        (tokenize (String.ofList layout'.chars)).map Placed.token =
          (tokenize text).map Placed.token := by
  constructor
  · intro t u same
    rw [Lexer.map_token_tokenize, Lexer.map_token_tokenize] at same
    have bare : (Session.ofText t).bare = (Session.ofText u).bare := List.append_cancel_right same
    exact ⟨unconditional_congr bare, sameOutcome_parse bare⟩
  · intro text
    exact ⟨Layout.exists_of text, fun _ _ isOf respaced => Layout.map_token_of_respaced isOf respaced⟩

/-- A bound that is missing is missed at the same token, and a blank between a number and two points
leaves the number as it is. -/
theorem sameOutcome_missing_bound :
    (tokenize "[1..").map Placed.token = (tokenize "[ 1 ..").map Placed.token ∧
      SameOutcome "[1.." "[ 1 .." (parse "[1..") (parse "[ 1 ..") ∧
      ∃ layout layout' : Layout, layout.Of "1.." ∧ layout.Respaced layout' ∧
        layout'.chars = "1 ..".toList ∧
        (tokenize (String.ofList layout'.chars)).map Placed.token =
          (tokenize "1..").map Placed.token := by
  have same : (tokenize "[1..").map Placed.token = (tokenize "[ 1 ..").map Placed.token := by
    decide +kernel
  have isOf : Layout.Of ⟨[⟨[], ['1'], .number "1"⟩, ⟨[], ['.', '.'], .symbol .dots⟩], []⟩ "1.." := by
    have noBlank : ∀ c ∈ ([] : List Char), Text.isBlank c = true := List.forall_mem_nil _
    refine ⟨rfl, by decide +kernel, by simp, ?_, noBlank⟩
    intro lexeme member
    simp only [List.mem_cons, List.not_mem_nil, or_false] at member
    rcases member with rfl | rfl
    · exact Lexeme.exact_of_read noBlank (by decide) (by decide)
    · exact Lexeme.exact_of_read noBlank (by decide) (by decide)
  have respaced : Layout.Respaced
      ⟨[⟨[], ['1'], .number "1"⟩, ⟨[], ['.', '.'], .symbol .dots⟩], []⟩
      ⟨[⟨[], ['1'], .number "1"⟩, ⟨[' '], ['.', '.'], .symbol .dots⟩], []⟩ := by
    refine ⟨.cons ⟨rfl, .same⟩ (.cons ⟨rfl, .exchanged (List.cons_ne_nil _ _) ?_⟩ .nil), .same⟩
    exact List.forall_mem_singleton.mpr (by decide)
  exact ⟨same, (sameOutcome_and_map_token_of_respaced.1 _ _ same).2, _, _, isOf, respaced, rfl,
    (sameOutcome_and_map_token_of_respaced.2 _).2 _ _ isOf respaced⟩

end Cell
end CellCheck
