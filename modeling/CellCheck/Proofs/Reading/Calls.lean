import CellCheck.Proofs.Grammar.Completeness
import CellCheck.Proofs.Lexing.Blank
import CellCheck.Proofs.Lexing.Requests
import CellCheck.Proofs.Reading.Failures
import Mathlib.Logic.Function.Iterate

/-!
# Reading a cell more than once

A session may be asked for its cell again.  It then goes on from the token where it stopped, so that
a call after a failure may well succeed, on what is left of the tokens.  This happens once at most,
because a success uses up all the tokens, and then there is nothing more to be read.

What a call does to a session is said once, in `Session.parse_cases`: either it reads all that is
left, or it fails somewhere in what is left.  The cursor therefore never moves back, and each call
moves it or changes nothing at all.  Since the cursor cannot move more often than there are tokens,
the answers are the same from some call on.
-/

namespace CellCheck

open CellCheck.Parser (complete complete_nil among_of_complete_eq_error)

namespace Cell
namespace Session

variable {s : Session}

/-! ## One call -/

def exhausted (s : Session) : ParseError := ⟨s.text, .unexpected .endOfText, s.text.length⟩

theorem parse_of_isBlank (isBlank : s.isBlank = true) : s.parse = (.ok .empty, s) := by
  rw [parse, if_pos isBlank]

theorem parse_of_ok (notBlank : s.isBlank = false) {e : Expr}
    (read : complete (s.bare.drop s.cursor) = .ok e) :
    s.parse = (.ok e, { s with cursor := s.tokens.length }) := by
  rw [parse, if_neg (by simp [notBlank]), read]

/-- A failure is reported at its anchor and leaves the tokens from the place where the parser
stood. -/
theorem parse_of_error (notBlank : s.isBlank = false) {failure : ParseFailure}
    (failed : complete (s.bare.drop s.cursor) = .error failure) :
    s.parse = (.error ⟨s.text, failure.problem, s.offset (s.before failure.anchor)⟩,
      { s with cursor := s.before failure.stoppedAt }) := by
  rw [parse, if_neg (by simp [notBlank]), failed]

/-- What a call does to a session with a condition: it reads all the tokens from the cursor on, or it
fails somewhere among them. -/
theorem parse_cases (notBlank : s.isBlank = false) :
    (∃ e, complete (s.bare.drop s.cursor) = .ok e ∧
      s.parse = (.ok e, { s with cursor := s.tokens.length })) ∨
    ∃ failure : ParseFailure, failure.Among (s.bare.drop s.cursor) ∧
      s.parse = (.error ⟨s.text, failure.problem, s.offset (s.before failure.anchor)⟩,
        { s with cursor := s.before failure.stoppedAt }) := by
  cases result : complete (s.bare.drop s.cursor) with
  | ok e => exact .inl ⟨e, rfl, parse_of_ok notBlank result⟩
  | error failure =>
    exact .inr ⟨failure, among_of_complete_eq_error result, parse_of_error notBlank result⟩

/-- A condition is refused at the first token behind it that does not continue it, and the next call
goes on from there. -/
theorem parse_of_follows (notBlank : s.isBlank = false) {ts rest : List Token} {e : Expr} {t : Token}
    (left : s.bare.drop s.cursor = ts ++ t :: rest)
    (derivation : Grammar.Derives .alternatives ts e)
    (follows : Grammar.Follows .alternatives (t :: rest)) :
    s.parse = (.error ⟨s.text, .unexpected t, s.offset (s.before (t :: rest))⟩,
      { s with cursor := s.before (t :: rest) }) := by
  have read := derivation.reads follows
  rw [Grammar.Reads] at read
  have refused : complete (s.bare.drop s.cursor) = .error (.unexpected (t :: rest)) := by
    rw [left, complete, read]
  exact parse_of_error notBlank refused

theorem parse_of_atEnd (notBlank : s.isBlank = false) (atEnd : s.cursor = s.tokens.length) :
    s.parse = (.error s.exhausted, s) := by
  have failed : complete (s.bare.drop s.cursor) = .error (.unexpected []) := by
    have nothing : s.bare.drop s.cursor = [] := by simp [bare, atEnd]
    rw [nothing, complete_nil]
  have place : s.before [] = s.cursor := atEnd.symm
  have position : s.offset s.cursor = s.text.length := by simp [offset, atEnd]
  rw [parse_of_error notBlank failed]
  simp only [ParseFailure.unexpected, ParseFailure.here, place, position]
  rfl

theorem cursor_parse_of_ok (notBlank : s.isBlank = false) {e : Expr} (read : s.parse.1 = .ok e) :
    s.parse.2.cursor = s.tokens.length := by
  rcases parse_cases notBlank with ⟨e', _, parsed⟩ | ⟨failure, _, parsed⟩
  · rw [parsed]
  · rw [parsed] at read
    cases read

/-- A call changes nothing of a session but the cursor, which goes forward. -/
theorem parse_eq_cursor (notBlank : s.isBlank = false) (inside : s.cursor ≤ s.tokens.length) :
    ∃ cursor, s.parse.2 = { s with cursor } ∧ s.cursor ≤ cursor ∧ cursor ≤ s.tokens.length := by
  rcases parse_cases notBlank with ⟨e, _, parsed⟩ | ⟨failure, among, parsed⟩
  · exact ⟨s.tokens.length, by rw [parsed], inside, Nat.le_refl _⟩
  · refine ⟨s.before failure.stoppedAt, by rw [parsed], ?_, Nat.sub_le _ _⟩
    have left := among.stoppedAt_suffix.length_le
    rw [List.length_drop, bare, List.length_map] at left
    rw [before]
    omega

/-! ## Several calls -/

/-- The session after some calls. -/
def after (s : Session) (calls : Nat) : Session := (fun s => s.parse.2)^[calls] s

/-- The answer to a call.  The first call has the number zero. -/
def answer (s : Session) (call : Nat) : Except ParseError Expr := (s.after call).parse.1

theorem after_succ (s : Session) (calls : Nat) : s.after (calls + 1) = (s.after calls).parse.2 :=
  Function.iterate_succ_apply' _ _ _

theorem after_add (s : Session) (calls more : Nat) :
    s.after (calls + more) = (s.after calls).after more := by
  rw [after, Nat.add_comm, Function.iterate_add_apply]
  rfl

/-- A session that a call leaves as it is gives the same answer to all calls. -/
theorem after_of_fixed (fixed : s.parse.2 = s) (calls : Nat) : s.after calls = s :=
  Function.iterate_fixed fixed calls

theorem after_eq_of_le {settled calls : Nat} (fixed : (s.after settled).parse.2 = s.after settled)
    (later : settled ≤ calls) : s.after calls = s.after settled := by
  rw [← Nat.add_sub_of_le later, after_add, after_of_fixed fixed]

/-- Calls change nothing of a session but the cursor, which stays among the tokens. -/
theorem after_eq_cursor (notBlank : s.isBlank = false) (inside : s.cursor ≤ s.tokens.length)
    (calls : Nat) : ∃ cursor, s.after calls = { s with cursor } ∧ cursor ≤ s.tokens.length := by
  induction calls with
  | zero => exact ⟨s.cursor, rfl, inside⟩
  | succ calls ih =>
    rcases ih with ⟨cursor, reached, within⟩
    have same : ({ s with cursor } : Session).isBlank = false := notBlank
    rcases parse_eq_cursor same within with ⟨next, parsed, _, nextWithin⟩
    exact ⟨next, by rw [after_succ, reached, parsed], nextWithin⟩

section Conditions

variable (notBlank : s.isBlank = false) (inside : s.cursor ≤ s.tokens.length)
include notBlank inside

/-- What one call does to the session that earlier calls have left: it moves the cursor forward, or
it leaves everything as it is. -/
theorem after_succ_cases (calls : Nat) :
    (s.after calls).cursor < (s.after (calls + 1)).cursor ∨
      (s.after calls).parse.2 = s.after calls := by
  rcases after_eq_cursor notBlank inside calls with ⟨cursor, reached, within⟩
  have same : ({ s with cursor } : Session).isBlank = false := notBlank
  rcases parse_eq_cursor same within with ⟨next, parsed, forward, _⟩
  rw [after_succ, reached, parsed]
  rcases Nat.lt_or_eq_of_le forward with moved | stays
  · exact .inl moved
  · exact .inr (congrArg (fun cursor => ({ s with cursor } : Session)) stays.symm)

theorem cursor_after_le_succ (calls : Nat) :
    (s.after calls).cursor ≤ (s.after (calls + 1)).cursor := by
  rcases after_succ_cases notBlank inside calls with moved | fixed
  · exact Nat.le_of_lt moved
  · rw [after_succ, fixed]

/-- After the last token, calls leave a session as it is and are answered by the same error. -/
theorem parse_after_of_atEnd {calls : Nat} (atEnd : (s.after calls).cursor = s.tokens.length) :
    (s.after calls).parse = (.error s.exhausted, s.after calls) := by
  rcases after_eq_cursor notBlank inside calls with ⟨cursor, reached, _⟩
  rw [reached] at atEnd ⊢
  exact parse_of_atEnd notBlank atEnd

theorem answer_of_ok {first later : Nat} {e : Expr} (read : s.answer first = .ok e)
    (isLater : first < later) : s.answer later = .error s.exhausted := by
  have atEnd : (s.after (first + 1)).cursor = s.tokens.length := by
    rcases after_eq_cursor notBlank inside first with ⟨cursor, reached, _⟩
    rw [answer, reached] at read
    rw [after_succ, reached]
    exact cursor_parse_of_ok notBlank read
  have parsed := parse_after_of_atEnd notBlank inside atEnd
  have fixed : (s.after (first + 1)).parse.2 = s.after (first + 1) := by rw [parsed]
  rw [answer, after_eq_of_le fixed isLater, parsed]

/-- As long as calls change something, the cursor has moved at least once for each of them. -/
theorem le_cursor_or_fixed (calls : Nat) :
    calls ≤ (s.after calls).cursor ∨ (s.after calls).parse.2 = s.after calls := by
  induction calls with
  | zero => exact .inl (Nat.zero_le _)
  | succ calls ih =>
    rcases after_succ_cases notBlank inside calls with moved | fixed
    · rcases ih with atLeast | fixed
      · exact .inl (Nat.lt_of_le_of_lt atLeast moved)
      · rw [after_succ, fixed]
        exact .inr fixed
    · rw [after_succ, fixed]
      exact .inr fixed

/-- As many calls as there are tokens bring a session to where it stays. -/
theorem fixed_after_length : (s.after s.tokens.length).parse.2 = s.after s.tokens.length := by
  rcases le_cursor_or_fixed notBlank inside s.tokens.length with atLeast | fixed
  · rcases after_eq_cursor notBlank inside s.tokens.length with ⟨cursor, reached, within⟩
    have atEnd : (s.after s.tokens.length).cursor = s.tokens.length := by
      apply Nat.le_antisymm _ atLeast
      rw [reached]
      exact within
    rw [parse_after_of_atEnd notBlank inside atEnd]
  · exact fixed

/-- From then on, all calls are answered by one and the same error. -/
theorem exists_error_of_length_le :
    ∃ error, ∀ call, s.tokens.length ≤ call → s.answer call = .error error := by
  have fixed := fixed_after_length notBlank inside
  have same : ∀ call, s.tokens.length ≤ call → s.answer call = s.answer s.tokens.length := by
    intro call isLater
    rw [answer, answer, after_eq_of_le fixed isLater]
  cases last : s.answer s.tokens.length with
  | error error => exact ⟨error, fun call isLater => (same call isLater).trans last⟩
  | ok e =>
    -- A success would be followed by the error of a session without tokens, and not by itself.
    have next := answer_of_ok notBlank inside last (Nat.lt_succ_self _)
    rw [same _ (Nat.le_succ _), last] at next
    cases next

end Conditions

/-! ## Calls from the start of a cell -/

/-- How the calls for a cell with a condition go. -/
structure RunsOut (text : String) : Prop where
  /-- The cursor never moves back. -/
  forward : ∀ call,
    ((ofText text).after call).cursor ≤ ((ofText text).after (call + 1)).cursor
  /-- The cursor never passes the mark of the end. -/
  inside : ∀ call, ((ofText text).after call).cursor < (tokenize text).length
  /-- At most one call succeeds. -/
  once : ∀ first second e e', (ofText text).answer first = .ok e →
    (ofText text).answer second = .ok e' → first = second
  /-- All later calls report the end of the text. -/
  exhausted : ∀ first later e, (ofText text).answer first = .ok e → first < later →
    ∃ error, (ofText text).answer later = .error error ∧ error.text = text ∧
      error.problem.message = "unexpected end of input" ∧
      (tokenize text).getLast? = some ⟨.endOfText, error.position⟩
  /-- If the tokens and the mark of the end are `n`, the `n`-th call and all later ones are answered
  by the same error. -/
  settles : ∃ error, ∀ call, (tokenize text).length ≤ call + 1 →
    (ofText text).answer call = .error error

/-- **How often a cell can be read.**  The calls for a cell with a condition go forward through its
tokens, succeed once at most, and run out into one error.  A cell without a condition is read in
the same way every time. -/
theorem runsOut_or_empty (text : String) :
    (¬ Unconditional text → RunsOut text) ∧
      (Unconditional text → ∀ call, (ofText text).answer call = .ok .empty ∧
        ((ofText text).after (call + 1)).cursor = ((ofText text).after call).cursor) := by
  constructor
  · intro conditional
    have notBlank : (ofText text).isBlank = false := by
      rw [Bool.eq_false_iff]
      exact fun isBlank => conditional (isBlank_ofText_iff.mp isBlank)
    have inside : (ofText text).cursor ≤ (ofText text).tokens.length := Nat.zero_le _
    have length : (tokenize text).length = (ofText text).tokens.length + 1 := by
      rw [Lexer.tokenize_eq, List.length_append]
      rfl
    have last : (tokenize text).getLast? = some ⟨.endOfText, text.length⟩ := by
      rw [Lexer.tokenize_eq, List.getLast?_concat]
    constructor
    · exact cursor_after_le_succ notBlank inside
    · intro call
      rcases after_eq_cursor notBlank inside call with ⟨cursor, reached, within⟩
      rw [reached, length]
      exact Nat.lt_succ_of_le within
    · intro first second e e' readFirst readSecond
      apply Nat.le_antisymm
      · apply Nat.le_of_not_lt
        intro before
        have afterwards := answer_of_ok notBlank inside readSecond before
        rw [readFirst] at afterwards
        cases afterwards
      · apply Nat.le_of_not_lt
        intro before
        have afterwards := answer_of_ok notBlank inside readFirst before
        rw [readSecond] at afterwards
        cases afterwards
    · intro first later e read isLater
      exact ⟨_, answer_of_ok notBlank inside read isLater, rfl, rfl, last⟩
    · rcases exists_error_of_length_le notBlank inside with ⟨error, settled⟩
      refine ⟨error, fun call isLater => settled call ?_⟩
      rw [length] at isLater
      exact Nat.le_of_succ_le_succ isLater
  · intro unconditional call
    have parsed := parse_of_isBlank (isBlank_ofText_iff.mpr unconditional)
    have stays : (ofText text).parse.2 = ofText text := by rw [parsed]
    rw [answer, after_of_fixed stays, after_of_fixed stays, parsed]
    exact ⟨rfl, rfl⟩

/-- Of two numbers the first call reads the first and refuses the second.  The next call reads the
second, and every other one reports the end of the text. -/
theorem runsOut_two_numbers :
    ¬ Unconditional "1 2" ∧ RunsOut "1 2" ∧
      (ofText "1 2").answer 0 = .error ⟨"1 2", .unexpected (.number "2"), 2⟩ ∧
      (ofText "1 2").answer 1 = .ok (.atom (.integer 2)) ∧
      (ofText "1 2").answer 2 = .error ⟨"1 2", .unexpected .endOfText, 3⟩ := by
  have conditional : ¬ Unconditional "1 2" := by decide +kernel
  have start : ofText "1 2" = ⟨"1 2", [⟨.number "1", 0⟩, ⟨.number "2", 2⟩], 0⟩ := by decide +kernel
  have derives : ∀ text value, Parser.numberAtom false text = .ok value →
      Grammar.Derives .alternatives [.number text] (.atom value) := by
    intro text value reads
    have primary := Grammar.Derives.atom (.number (Grammar.numberAtom_eq_ok_iff.mp reads))
    have operand : Grammar.Derives (.operation .multiplicative) [.number text] (.atom value) :=
      .operand (.base primary)
    exact .single (.value (.operand (.operand (.operand operand))))
  have notBlank : (ofText "1 2").isBlank = false := by decide +kernel
  have follows : Grammar.Follows .alternatives [.number "2"] := by
    refine ⟨⟨by simp, by simp⟩, ?_⟩
    intro t isHead
    cases isHead
    decide
  rw [start] at notBlank
  have first := parse_of_follows notBlank rfl (derives "1" (.integer 1) rfl) follows
  have second := parse_of_ok (s := ⟨"1 2", [⟨.number "1", 0⟩, ⟨.number "2", 2⟩], 1⟩) notBlank
    (Grammar.complete_eq_ok_iff_derives.mpr (derives "2" (.integer 2) rfl))
  have third := parse_of_atEnd (s := ⟨"1 2", [⟨.number "1", 0⟩, ⟨.number "2", 2⟩], 2⟩) notBlank rfl
  have afterOne : (ofText "1 2").after 1 = ⟨"1 2", [⟨.number "1", 0⟩, ⟨.number "2", 2⟩], 1⟩ := by
    rw [start]
    exact congrArg Prod.snd first
  have afterTwo : (ofText "1 2").after 2 = ⟨"1 2", [⟨.number "1", 0⟩, ⟨.number "2", 2⟩], 2⟩ := by
    rw [after_succ, afterOne]
    exact congrArg Prod.snd second
  refine ⟨conditional, (runsOut_or_empty "1 2").1 conditional, ?_, ?_, ?_⟩
  · rw [start]
    exact congrArg Prod.fst first
  · rw [answer, afterOne]
    exact congrArg Prod.fst second
  · rw [answer, afterTwo]
    exact congrArg Prod.fst third

end Session
end Cell
end CellCheck
