import CellCheck.Proofs.Lexing.Literals
import Mathlib.Data.List.Forall2

/-!
# Requests to one lexer

A lexer can be asked for one token or for all that are left, any number of times and in any order.
Whatever it is asked for, it gives the tokens of the text one after the other, and when they are
used up it gives the mark of the end and stays where it is.  How it is driven makes no difference to
the tokens.

What carries this through a run is that a place in the text determines the tokens from there on, and
that an answer takes its tokens off the front of these.  The place itself is the offset together with
the characters after it; `Lexer.Within` says that the two agree, and that no token reaches beyond
the end of the text.
-/

namespace CellCheck

/-! ## The width of a token -/

namespace Token

theorem two_le_of_head? {cs : List Char} {d : Char} (follows : cs.head? = some d) :
    2 ≤ cs.length + 1 := by
  cases cs with
  | nil => cases follows
  | cons => simp

/-- A token does not reach beyond the end of the text. -/
theorem width_le (c : Char) (cs : List Char) : (read c cs).2 ≤ cs.length + 1 := by
  fun_cases read c cs
  case case3 follows | case6 follows | case8 follows | case10 follows =>
    exact two_le_of_head? follows
  case case17 quoted => exact Nat.succ_le_succ (readQuoted_eq_some_iff.mp quoted).width_le
  case case18 => exact Nat.le_refl _
  case case19 => exact Nat.succ_le_succ (List.takeWhile_sublist _).length_le
  case case20 => exact (readNumber_isPrefix (c :: cs)).length_le
  all_goals exact Nat.succ_le_succ (Nat.zero_le _)

theorem ofWord_ne {t : Token} (word : String) (noSymbol : ∀ s, t ≠ .symbol s)
    (noName : ∀ name, t ≠ .identifier name) : ofWord word ≠ t := by
  unfold ofWord
  split
  · exact (noSymbol _).symm
  · exact (noName _).symm

theorem read_ne_endOfText (c : Char) (cs : List Char) : (read c cs).1 ≠ .endOfText := by
  fun_cases read c cs
  case case19 => exact ofWord_ne _ (by simp) (by simp)
  all_goals simp

end Token

namespace Lexer

open Token (Placed)

/-! ## Places in a text -/

/-- The next token is the one that starts where the blanks end. -/
theorem exists_of_next? {l next : Lexer} {placed : Placed} (read : l.next? = some (placed, next)) :
    ∃ c cs, l.skipBlanks.rest = c :: cs ∧
      placed = ⟨(Token.read c cs).1, l.skipBlanks.offset⟩ ∧
      next = l.skipBlanks.advance (Token.read c cs).2 := by
  unfold next? at read
  simp only at read
  split at read
  · cases read
  · next c cs here =>
    cases read
    exact ⟨c, cs, here, rfl, rfl⟩

/-- A place in a text: what comes after it are the characters of the text from its offset on. -/
structure Within (text : List Char) (l : Lexer) : Prop where
  offset_le : l.offset ≤ text.length
  rest_eq : l.rest = text.drop l.offset

theorem within_ofText (text : String) : Within text.toList (ofText text) := ⟨Nat.zero_le _, rfl⟩

namespace Within

variable {text : List Char} {l : Lexer}

theorem offset_add_length (within : Within text l) : l.offset + l.rest.length = text.length := by
  rw [within.rest_eq, List.length_drop, Nat.add_sub_of_le within.offset_le]

theorem current?_eq (within : Within text l) : l.current? = text[l.offset]? := by
  rw [current?, within.rest_eq, List.head?_drop]

theorem advance (within : Within text l) {n : Nat} (inText : n ≤ l.rest.length) :
    Within text (l.advance n) := by
  constructor
  · have whole := within.offset_add_length
    simp only [Lexer.advance]
    omega
  · simp only [Lexer.advance, within.rest_eq, List.drop_drop]

theorem skipBlanks (within : Within text l) : Within text l.skipBlanks :=
  within.advance (List.takeWhile_sublist _).length_le

theorem atEnd (within : Within text l) : Within text l.atEnd := within.advance (Nat.le_refl _)

/-- All places in a text lead to the same end. -/
theorem atEnd_eq (within : Within text l) : l.atEnd = ⟨text.length, []⟩ := by
  rw [Lexer.atEnd, Lexer.advance, within.offset_add_length, List.drop_length]

theorem endMark_eq (within : Within text l) : l.endMark = ⟨.endOfText, text.length⟩ := by
  rw [endMark, within.atEnd_eq]

theorem next? (within : Within text l) {placed : Placed} {next : Lexer}
    (read : l.next? = some (placed, next)) : Within text next := by
  rcases exists_of_next? read with ⟨c, cs, here, _, rfl⟩
  apply within.skipBlanks.advance
  rw [here]
  exact Token.width_le c cs

end Within

/-! ## The tokens that are left -/

theorem tokens_of_next?_eq_none {l : Lexer} (read : l.next? = none) : l.tokens = [] := by
  rw [tokens.eq_def, read]

theorem tokens_of_next?_eq_some {l next : Lexer} {placed : Placed}
    (read : l.next? = some (placed, next)) : l.tokens = placed :: next.tokens := by
  rw [tokens.eq_def, read]

/-- The mark of the end is not among the tokens of a text. -/
theorem token_ne_endOfText_of_mem_tokens {l : Lexer} :
    ∀ placed ∈ l.tokens, placed.token ≠ .endOfText := by
  induction l using tokens.induct with
  | case1 l read =>
    rw [tokens_of_next?_eq_none read]
    exact fun _ member => absurd member List.not_mem_nil
  | case2 l placed next read ih =>
    rw [tokens_of_next?_eq_some read, List.forall_mem_cons]
    rcases exists_of_next? read with ⟨c, cs, _, rfl, _⟩
    exact ⟨Token.read_ne_endOfText c cs, ih⟩

/-! ## Requests -/

inductive Request where
  /-- The next token. -/
  | next
  /-- All tokens up to the mark of the end. -/
  | all
deriving DecidableEq, Repr

/-- The tokens that answer a request, and the place after them. -/
def answer (l : Lexer) : Request → List Placed × Lexer
  | .next => ([l.next.1], l.next.2)
  | .all => l.tokenize

/-- The answers to some requests, one after the other, and the last place. -/
def run (l : Lexer) : List Request → List (List Placed) × Lexer
  | [] => ([], l)
  | request :: requests =>
    ((l.answer request).1 :: ((l.answer request).2.run requests).1,
      ((l.answer request).2.run requests).2)

/-- The form of an answer: one token, or tokens up to the mark of the end. -/
inductive Answers : Request → List Placed → Prop
  | next (placed : Placed) : Answers .next [placed]
  | all {before : List Placed} {mark : Placed}
      (noMark : ∀ placed ∈ before, placed.token ≠ .endOfText) (isMark : mark.token = .endOfText) :
      Answers .all (before ++ [mark])

theorem answers_answer (l : Lexer) (request : Request) : Answers request (l.answer request).1 := by
  cases request with
  | next => exact .next _
  | all => exact .all token_ne_endOfText_of_mem_tokens rfl

/-- An answer is the first token that is left, or all that is left with the mark of the end. -/
theorem answer_cases (l : Lexer) (request : Request) :
    (∃ placed next, l.next? = some (placed, next) ∧ l.answer request = ([placed], next)) ∨
      l.answer request = (l.tokens ++ [l.endMark], l.atEnd) := by
  cases request with
  | next =>
    cases read : l.next? with
    | none =>
      right
      simp only [answer, Lexer.next, read, Option.getD_none, tokens_of_next?_eq_none read,
        List.nil_append]
    | some found =>
      left
      refine ⟨found.1, found.2, rfl, ?_⟩
      simp only [answer, Lexer.next, read, Option.getD_some]
  | all => exact .inr rfl

theorem Within.answer {text : List Char} {l : Lexer} (within : Within text l) (request : Request) :
    Within text (l.answer request).2 := by
  rcases l.answer_cases request with ⟨placed, next, read, answered⟩ | answered
  · rw [answered]
    exact within.next? read
  · rw [answered]
    exact within.atEnd

theorem Within.run {text : List Char} {l : Lexer} (within : Within text l)
    (requests : List Request) : Within text (l.run requests).2 := by
  induction requests generalizing l with
  | nil => exact within
  | cons request requests ih => exact ih (within.answer request)

theorem answers_run (l : Lexer) (requests : List Request) :
    List.Forall₂ Answers requests (l.run requests).1 := by
  induction requests generalizing l with
  | nil => exact .nil
  | cons request requests ih => exact .cons (l.answers_answer request) (ih _)

/-- At the end of the text every request is answered by the mark of the end, and the lexer stays
where it is. -/
theorem run_of_rest_eq_nil {l : Lexer} (isEnd : l.rest = []) (requests : List Request) :
    l.run requests = (List.replicate requests.length [l.endMark], l) := by
  have nothing : l.next? = none := by
    simp [next?, skipBlanks, advance, isEnd]
  have stays : l.atEnd = l := by
    rw [atEnd, advance, List.drop_length, isEnd, List.length_nil, Nat.add_zero, ← isEnd]
  induction requests with
  | nil => rfl
  | cons request requests ih =>
    have answered : l.answer request = ([l.endMark], l) := by
      cases request with
      | next => simp only [answer, next, nothing, Option.getD_none, stays]
      | all =>
        simp only [answer, tokenize, tokens_of_next?_eq_none nothing, stays, List.nil_append]
    rw [run, answered, ih]
    rfl

/-- The answers of a run are the tokens from the first place on.  Either some of them are left, or
all have been given and the mark of the end at least once. -/
theorem Within.run_cases {text : List Char} {l : Lexer} (within : Within text l)
    (requests : List Request) :
    (l.run requests).1.flatten ++ (l.run requests).2.tokens = l.tokens ∨
      ∃ n, (l.run requests).1.flatten =
          l.tokens ++ List.replicate (n + 1) ⟨.endOfText, text.length⟩ ∧
        (l.run requests).2 = ⟨text.length, []⟩ := by
  induction requests generalizing l with
  | nil => exact .inl rfl
  | cons request requests ih =>
    rw [Lexer.run]
    rcases l.answer_cases request with ⟨placed, next, read, answered⟩ | answered
    · rw [answered, tokens_of_next?_eq_some read]
      rcases ih (within.next? read) with inside | ⟨n, given, last⟩
      · exact .inl (by simp [inside])
      · exact .inr ⟨n, by simp [given], last⟩
    · have isEnd : l.atEnd.rest = [] := by rw [within.atEnd_eq]
      rw [answered, run_of_rest_eq_nil isEnd requests, within.atEnd.endMark_eq, within.endMark_eq]
      refine .inr ⟨requests.length, ?_, within.atEnd_eq⟩
      simp [List.replicate_succ]

/-- The tokens of a text, and the mark of the end at the number of its characters. -/
theorem tokenize_eq (text : String) :
    CellCheck.tokenize text = (ofText text).tokens ++ [⟨.endOfText, text.length⟩] := by
  rw [CellCheck.tokenize, Lexer.tokenize, (within_ofText text).endMark_eq, String.length_toList]

/-- What a lexer gives in a run from the start of a text, and where it stands then. -/
structure Delivers (text : String) (requests : List Request) (answers : List (List Placed))
    (last : Lexer) : Prop where
  /-- Each request has an answer of its form. -/
  each : List.Forall₂ Answers requests answers
  /-- Up to the end, the answers are tokens of the text in their order. -/
  inside : (∀ placed ∈ answers.flatten, placed.token ≠ .endOfText) →
    answers.flatten <+: CellCheck.tokenize text
  /-- Beyond the end, they are all tokens of the text, and the mark of the end as often as there was
  something more to answer. -/
  beyond : (∃ placed ∈ answers.flatten, placed.token = .endOfText) →
    ∃ n, answers.flatten =
      CellCheck.tokenize text ++ List.replicate n ⟨.endOfText, text.length⟩ ∧ last.offset = text.length
  offset_le : last.offset ≤ text.length
  current : last.current? = text.toList[last.offset]?

/-- **A lexer gives the same tokens however it is driven.** -/
theorem delivers_run (text : String) (requests : List Request) :
    Delivers text requests ((ofText text).run requests).1 ((ofText text).run requests).2 := by
  have within := within_ofText text
  have length : text.toList.length = text.length := String.length_toList
  have all := tokenize_eq text
  have given := within.run_cases requests
  rw [length] at given
  refine ⟨answers_run _ _, ?_, ?_, length ▸ (within.run requests).offset_le,
    (within.run requests).current?_eq⟩
  · intro noMark
    rcases given with inside | ⟨n, given, _⟩
    · rw [all, ← inside, List.append_assoc]
      exact List.prefix_append _ _
    · exact absurd rfl (noMark ⟨.endOfText, text.length⟩ (by simp [given]))
  · rintro ⟨placed, member, isMark⟩
    rcases given with inside | ⟨n, given, last⟩
    · have ofText : placed ∈ (ofText text).tokens := by
        rw [← inside]
        exact List.mem_append_left _ member
      exact absurd isMark (token_ne_endOfText_of_mem_tokens placed ofText)
    · refine ⟨n, ?_, by rw [last]⟩
      rw [given, all, List.append_assoc, List.replicate_succ]
      rfl

example : ((ofText "1..5").run [.next, .all, .next]).1 =
    [[⟨.number "1", 0⟩], [⟨.symbol .dots, 1⟩, ⟨.number "5", 3⟩, ⟨.endOfText, 4⟩],
      [⟨.endOfText, 4⟩]] := by
  decide +kernel

end Lexer
end CellCheck
