import CellCheck.Proofs.Expr.Subtrees
import CellCheck.Proofs.Printing.RoundTrip

/-!
# The trees that cells denote

`Expr.Written` describes what the parser can produce.  Nothing in the description is superfluous:
every tree that fits it is the tree of some text, the ones with infinities included, although their
canonical texts are no cells.  An infinity is written as a decimal that is too large for a double.

The text is put together from tokens.  With a blank after each token nothing runs together, so a
text for some tokens and a text for others make up a text for all of them, and it is enough to find
tokens that derive the tree.  Operands are put in parentheses, whatever they are.
-/

namespace CellCheck

/-! ## Texts for tokens -/

namespace Token

/-- Whether there is a text that falls into these tokens if a blank follows it. -/
def Writable (ts : List Token) : Prop :=
  ∃ cs, ∀ rest, ofChars (cs ++ ' ' :: rest) = ts ++ ofChars rest

theorem Writable.append {ts us : List Token} (first : Writable ts) (second : Writable us) :
    Writable (ts ++ us) := by
  rcases first with ⟨cs, reads⟩
  rcases second with ⟨ds, readsOthers⟩
  refine ⟨cs ++ ' ' :: ds, fun rest => ?_⟩
  rw [List.append_assoc, List.cons_append, reads, readsOthers, List.append_assoc]

theorem writable_of_reads {cs : List Char} {ts : List Token}
    (reads : ∀ {rest}, EndsToken rest → ofChars (cs ++ rest) = ts ++ ofChars rest) :
    Writable ts := by
  refine ⟨cs, fun rest => ?_⟩
  rw [reads (endsToken_blank rest), ofChars_of_isBlank (by decide)]

theorem writable_symbol (s : Symbol) : Writable [.symbol s] := by
  refine ⟨s.text.toList, fun rest => ?_⟩
  rw [ofChars_symbol s (separates_blank s rest), ofChars_of_isBlank (by decide)]
  rfl

theorem Writable.cons {ts : List Token} (writable : Writable ts) (s : Symbol) :
    Writable (.symbol s :: ts) :=
  (writable_symbol s).append writable

theorem Writable.parenthesized {ts : List Token} (writable : Writable ts) :
    Writable (.symbol .leftParen :: ts ++ [.symbol .rightParen]) :=
  (writable.cons .leftParen).append (writable_symbol .rightParen)

theorem Writable.exists_text {ts : List Token} (writable : Writable ts) :
    ∃ text : String, (Cell.Session.ofText text).bare = ts := by
  rcases writable with ⟨cs, reads⟩
  refine ⟨String.ofList (cs ++ [' ']), ?_⟩
  rw [bare_ofText, String.toList_ofList, reads, ofChars_nil, List.append_nil]

end Token

/-! ## Infinities -/

namespace Double

/-- A decimal that is too large for a double. -/
def hugeChars : List Char := '1' :: List.replicate 309 '0' ++ ['.', '0']

theorem ofDecimal_hugeChars (negative : Bool) :
    ofDecimal negative (.ofChars hugeChars) = infinity negative := by
  cases negative <;> decide +kernel

theorem eq_infinity {x : Double} (isInfinite : x.isInfinite = true) : x = infinity x.negative := by
  rcases x with ⟨negative, magnitude, bound⟩
  rw [Double.isInfinite, beq_iff_eq] at isInfinite
  subst isInfinite
  rfl

end Double

namespace Grammar

open CellCheck.Expr (Form Written)

theorem numberValue_infinity (negative : Bool) :
    NumberValue negative (String.ofList Double.hugeChars) (.double (.infinity negative)) := by
  have point : '.' ∈ (String.ofList Double.hugeChars).toList := by
    rw [String.toList_ofList]
    exact List.mem_append_right _ List.mem_cons_self
  have reads : NumberValue negative _ _ := .double point
  rwa [String.toList_ofList, Double.ofDecimal_hugeChars] at reads

theorem writable_huge (negative : Bool) :
    Token.Writable (signTokens negative ++ [.number (String.ofList Double.hugeChars)]) := by
  have isNumber : Token.IsNumber Double.hugeChars := by
    refine .decimal ?_ (List.all_eq_true.mp rfl)
    intro c member
    rcases List.mem_cons.mp member with rfl | member
    · rfl
    · exact Decimal.isDigit_of_mem_zeros c member
  have number : Token.Writable [.number (String.ofList Double.hugeChars)] :=
    Token.writable_of_reads fun ends => Token.ofChars_number isNumber ends
  cases negative with
  | true => exact number.cons .minus
  | false => exact number

/-! ## Texts for trees -/

theorem exists_derivesAtom {value : Atom} (written : value.Written) :
    ∃ ts, Token.Writable ts ∧ DerivesAtom ts value := by
  by_cases infinite : ∃ x ∈ value.doubles, x.isInfinite = true
  · rcases infinite with ⟨x, member, isInfinite⟩
    cases value with
    | double value =>
      rw [List.mem_singleton.mp member] at isInfinite
      rw [Double.eq_infinity isInfinite]
      exact ⟨_, writable_huge _, derivesAtom_signed (numberValue_infinity _)⟩
    | _ => cases member
  · have noInfinity : ∀ x ∈ value.doubles, x.isInfinite = false := fun x member =>
      Bool.eq_false_iff.mpr fun isInfinite => infinite ⟨x, member, isInfinite⟩
    exact ⟨value.tokens, Token.writable_of_reads (Token.ofChars_atom written),
      derivesAtom_tokens written noInfinity⟩

/-- Every tree of a cell has tokens that can be written. -/
theorem exists_derives {form : Form} {e : Expr} (written : e.Written form) :
    ∃ ts, Token.Writable ts ∧ Derives (phraseOf form) ts e := by
  induction written with
  | atom written =>
    rcases exists_derivesAtom written with ⟨ts, writable, derivation⟩
    exact ⟨ts, writable, (Derives.base (.atom derivation)).operation_of_power _⟩
  | @operation operator _ _ isInfix _ _ first second =>
    rcases first with ⟨ts, writable, before⟩
    rcases second with ⟨us, writable', after⟩
    -- Both operands are put in parentheses, whether they need them or not.
    exact ⟨_, writable.parenthesized.append (writable'.parenthesized.cons operator.token),
      .value_of_operands isInfix (.parenthesized before) (.parenthesized after)⟩
  | value _ ih =>
    rcases ih with ⟨ts, writable, derivation⟩
    exact ⟨ts, writable, .value derivation⟩
  | @range lowerIncluded upperIncluded _ _ first second =>
    rcases exists_derivesAtom first with ⟨ts, writable, lower⟩
    rcases exists_derivesAtom second with ⟨us, writable', upper⟩
    have opens : ∃ symbol, OpeningBracket symbol lowerIncluded := by
      cases lowerIncluded with
      | true => exact ⟨_, .included⟩
      | false => exact ⟨_, .excluded⟩
    have closes : ∃ symbol, ClosingBracket symbol upperIncluded := by
      cases upperIncluded with
      | true => exact ⟨_, .included⟩
      | false => exact ⟨_, .excluded⟩
    rcases opens with ⟨opening, opens⟩
    rcases closes with ⟨closing, closes⟩
    refine ⟨_, ?_, .range (.bounds opens (.atom lower) (.atom upper) closes)⟩
    exact ((writable.cons opening).append (writable'.cons .dots)).append
      (Token.writable_symbol closing)
  | @comparison operator _ isComparison _ ih =>
    rcases ih with ⟨ts, writable, derivation⟩
    exact ⟨_, writable.cons operator.token, derives_comparison isComparison derivation⟩
  | negation _ ih =>
    rcases ih with ⟨ts, writable, derivation⟩
    exact ⟨_, writable.parenthesized.cons .not, .negation derivation⟩
  | single _ ih =>
    rcases ih with ⟨ts, writable, derivation⟩
    exact ⟨ts, writable, .single derivation⟩
  | several _ _ first second =>
    rcases first with ⟨ts, writable, head⟩
    rcases second with ⟨us, writable', tail⟩
    exact ⟨_, writable.append (writable'.cons .comma), .several head tail⟩

/-- Every tree of a cell is the tree of a text. -/
theorem exists_parse_eq_ok {e : Expr} (written : e.Written .alternatives) :
    ∃ text, Cell.parse text = .ok e := by
  rcases exists_derives written with ⟨ts, writable, derivation⟩
  rcases writable.exists_text with ⟨text, tokens⟩
  refine ⟨text, parse_ofText_eq_ok_iff.mpr ?_⟩
  rw [tokens]
  exact .condition derivation

end Grammar

/-! ## What occurs in the tree of a cell -/

namespace Expr

/-- What a node of a cell's tree looks like, below the root and elsewhere: it is not empty, an atom
that can stand in a cell, and not a disjunction that nests to the left. -/
def MayOccur : Expr → Prop
  | empty => False
  | atom value => value.Written
  | disjunction head _ => ∀ first others, head ≠ disjunction first others
  | _ => True

theorem Written.ne_disjunction {e : Expr} (written : e.Written .alternative) (head tail : Expr) :
    e ≠ disjunction head tail := by
  rintro rfl
  cases written with
  | value written => cases written

/-- The rules for the trees of cells hold at every depth. -/
theorem Written.mayOccur {form : Form} {e : Expr} (written : e.Written form) :
    ∀ part ∈ e.subtrees, part.MayOccur := by
  induction written with
  | atom written =>
    simp only [subtrees, List.forall_mem_singleton]
    exact written
  | value _ ih | single _ ih => exact ih
  | operation _ _ _ first second =>
    simp only [subtrees, List.forall_mem_append, List.forall_mem_singleton]
    exact ⟨⟨first, second⟩, trivial⟩
  | range first second =>
    simp only [subtrees, List.forall_mem_append, List.forall_mem_singleton]
    exact ⟨⟨first, second⟩, trivial⟩
  | comparison _ _ ih | negation _ ih =>
    simp only [subtrees, List.forall_mem_append, List.forall_mem_singleton]
    exact ⟨ih, trivial⟩
  | several head _ first second =>
    simp only [subtrees, List.forall_mem_append, List.forall_mem_singleton]
    exact ⟨⟨first, second⟩, head.ne_disjunction⟩

end Expr

/-- **The trees of cells are exactly the empty one and those that are written as alternatives.**
Every such tree is the tree of some text.  In particular only a blank cell is empty, no part of a
cell is, alternatives nest to the right, and no text stands for a string that ends in a
backslash. -/
theorem Cell.exists_parse_eq_ok_iff :
    (∀ e : Expr, (∃ text, parse text = .ok e) ↔ e = .empty ∨ e.Written .alternatives) ∧
      ∀ text e, parse text = .ok e →
        (Expr.empty ∈ e.subtrees → e = .empty) ∧
        (∀ head tail, Expr.disjunction head tail ∈ e.subtrees →
          ∀ first others, head ≠ .disjunction first others) ∧
        ∀ value : String, Expr.atom (.string value) ∈ e.subtrees →
          value.toList.getLast? ≠ some '\\' := by
  constructor
  · intro e
    constructor
    · rintro ⟨text, parsed⟩
      exact Grammar.written_of_parse parsed
    · rintro (rfl | written)
      · exact ⟨_, Grammar.parse_print_empty⟩
      · exact Grammar.exists_parse_eq_ok written
  · intro text e parsed
    rcases Grammar.written_of_parse parsed with rfl | written
    · simp [Expr.subtrees]
    · refine ⟨?_, ?_, ?_⟩
      · exact fun member => absurd (written.mayOccur _ member) id
      · exact fun head tail member => written.mayOccur _ member
      · exact fun value member => written.mayOccur _ member

/-- Some text stands for the range from the negative infinity to a string of two backslashes and a
quote, and in its tree no string ends in a backslash. -/
theorem Cell.exists_parse_eq_ok_iff_infinite :
    ∃ text, parse text =
        .ok (.range true (.atom (.double (.infinity true))) (.atom (.string "\\\\\"")) false) ∧
      "\\\\\"".toList.getLast? ≠ some '\\' := by
  have closed : (Atom.string "\\\\\"").Written := by
    change "\\\\\"".toList.getLast? ≠ some '\\'
    decide
  have written : (Expr.range true (.atom (.double (.infinity true)))
      (.atom (.string "\\\\\"")) false).Written .alternatives :=
    .single (.range (show (Double.infinity true).isNaN = false by decide) closed)
  rcases (exists_parse_eq_ok_iff.1 _).mpr (.inr written) with ⟨text, parsed⟩
  exact ⟨text, parsed, (exists_parse_eq_ok_iff.2 text _ parsed).2.2 _ (by simp [Expr.subtrees])⟩

end CellCheck
